import RanSlicing.Controller.Endpoint
import Mathlib.Data.List.DropRight

/-!
# The port of an endpoint

The address of an endpoint is looked at from its end only: it counts as one with a port if digits stand behind its
last colon, and otherwise the configured port is added at its end (`Endpoint.baseUrl_ofUrl`). An endpoint that was
made with a port so ends in one, and its address goes through a second time as it is.

The place of the port is behind the host, though, and that is the end of an address only if it has no path. With a
path the port of the address is not seen and the configured one lands behind the path, unless the path ends in a
colon and digits, which are then taken for the port (`Endpoint.Address.port_in_authority_iff`).
-/

namespace RanSlicing.Endpoint

/-! ## The end of an address -/

/-- Whether a text ends in a colon and digits. -/
def EndsInPort (cs : List Char) : Prop :=
  ∃ before digits, cs = before ++ ':' :: digits ∧ digits ≠ [] ∧ ∀ c ∈ digits, c.isDigit

theorem not_endsInPort_nil : ¬ EndsInPort [] := by
  rintro ⟨before, digits, heq, -⟩
  simp at heq

theorem notMem_of_forall_isDigit {digits : List Char} (hdigits : ∀ c ∈ digits, c.isDigit) {c : Char}
    (hc : ¬ c.isDigit) : c ∉ digits :=
  fun hmem => hc (hdigits c hmem)

/-- What stands behind the last colon. -/
theorem takeWhile_reverse_of_colon (before : List Char) {tail : List Char} (htail : ':' ∉ tail) :
    (before ++ ':' :: tail).reverse.takeWhile (· ≠ ':') = tail.reverse := by
  have hplain : ∀ c ∈ tail.reverse, decide (c ≠ ':') := by
    intro c hc
    exact decide_eq_true fun heq => htail (heq ▸ List.mem_reverse.mp hc)
  rw [List.reverse_append, List.reverse_cons, List.append_assoc, List.takeWhile_append_of_pos hplain,
    List.singleton_append, List.takeWhile_cons_of_neg (by simp), List.append_nil]

/-- A port is found exactly at the end of a text. -/
theorem hasPort_iff {cs : List Char} : hasPort cs ↔ EndsInPort cs := by
  simp only [hasPort, Bool.and_eq_true, decide_eq_true_eq, Bool.not_eq_true', List.isEmpty_eq_false_iff,
    List.all_eq_true]
  constructor
  · rintro ⟨⟨hlt, hne⟩, hdigits⟩
    have hcolon : ':' ∈ cs.reverse := by
      by_contra hnone
      have hall : cs.reverse.takeWhile (· ≠ ':') = cs.reverse :=
        List.takeWhile_eq_self_iff.mpr fun c hc => decide_eq_true fun heq => hnone (heq ▸ hc)
      rw [hall, List.length_reverse] at hlt
      exact Nat.lt_irrefl _ hlt
    obtain ⟨tail, before, hcs, htail⟩ := List.eq_append_cons_of_mem hcolon
    have hcs' : cs = before.reverse ++ ':' :: tail.reverse := by
      rw [← List.reverse_reverse cs, hcs]
      simp
    rw [hcs', takeWhile_reverse_of_colon _ (by simpa using htail), List.reverse_reverse] at hne hdigits
    exact ⟨before.reverse, tail.reverse, hcs', by simpa using hne, by simpa using hdigits⟩
  · rintro ⟨before, digits, rfl, hne, hdigits⟩
    rw [takeWhile_reverse_of_colon before (notMem_of_forall_isDigit hdigits (by decide))]
    refine ⟨⟨?_, by simpa using hne⟩, by simpa using hdigits⟩
    rw [List.length_reverse, List.length_append, List.length_cons]
    omega

/-- A text that does not end in a slash stays as it is, and slashes that are added to it are dropped. -/
theorem trimSlashes_append {cs : List Char} (h : cs.getLast? ≠ some '/') (n : Nat) :
    trimSlashes (cs ++ List.replicate n '/') = cs := by
  induction n with
  | zero =>
    rw [List.replicate_zero, List.append_nil]
    refine List.rdropWhile_eq_self_iff.mpr fun hne => ?_
    rw [List.getLast?_eq_some_getLast hne, ne_eq, Option.some.injEq] at h
    simpa using h
  | succ n ih =>
    rw [List.replicate_succ', ← List.append_assoc]
    exact (List.rdropWhile_concat_pos (fun c => decide (c = '/')) _ _ rfl).trans ih

theorem getLast?_of_endsInPort {cs : List Char} (h : EndsInPort cs) : cs.getLast? ≠ some '/' := by
  obtain ⟨before, digits, rfl, hne, hdigits⟩ := h
  rw [List.getLast?_append_of_ne_nil _ (List.cons_ne_nil _ _), List.getLast?_cons_of_ne_nil hne]
  intro hlast
  exact notMem_of_forall_isDigit hdigits (by decide) (List.mem_of_getLast? hlast)

/-- A port that is written behind a text ends it. -/
theorem endsInPort_append (cs : List Char) (p : UInt16) :
    EndsInPort (cs ++ ':' :: (toString p.toNat).toList) := by
  rw [Nat.toString_eq_repr, Nat.toList_repr]
  exact ⟨cs, _, rfl, Nat.toDigits_ne_nil, fun c => Nat.isDigit_of_mem_toDigits (by decide) (by decide)⟩

/-- The address of an endpoint that is made with a port. -/
theorem baseUrl_ofUrl (url : String) (p : UInt16) (timeout : Millis) :
    (EndsInPort (trimSlashes url.toList) ∧
        (ofUrl url (some p) timeout).baseUrl = String.ofList (trimSlashes url.toList)) ∨
      ¬ EndsInPort (trimSlashes url.toList) ∧
        (ofUrl url (some p) timeout).baseUrl =
          String.ofList (trimSlashes url.toList ++ ':' :: (toString p.toNat).toList) := by
  by_cases h : EndsInPort (trimSlashes url.toList)
  · refine .inl ⟨h, ?_⟩
    simp only [ofUrl, if_pos (hasPort_iff.mpr h)]
  · refine .inr ⟨h, ?_⟩
    simp only [ofUrl, if_neg (hasPort_iff.not.mpr h)]

/-- An address that ends in a port is taken as it is. -/
theorem baseUrl_ofUrl_of_endsInPort {cs : List Char} (h : EndsInPort cs) (port : Option UInt16)
    (timeout : Millis) : (ofUrl (String.ofList cs) port timeout).baseUrl = String.ofList cs := by
  have htrim : trimSlashes (String.ofList cs).toList = cs := by
    rw [String.toList_ofList]
    simpa using trimSlashes_append (getLast?_of_endsInPort h) 0
  cases port with
  | none => simp only [ofUrl, htrim]
  | some p => simp only [ofUrl, htrim, if_pos (hasPort_iff.mpr h)]

/-- The address of an endpoint that was made with a port makes the same endpoint again. -/
theorem baseUrl_ofUrl_baseUrl (url : String) (p : UInt16) (timeout : Millis) (port : Option UInt16)
    (timeout' : Millis) :
    (ofUrl (ofUrl url (some p) timeout).baseUrl port timeout').baseUrl =
      (ofUrl url (some p) timeout).baseUrl := by
  rcases baseUrl_ofUrl url p timeout with ⟨h, hbase⟩ | ⟨-, hbase⟩
  · rw [hbase, baseUrl_ofUrl_of_endsInPort h]
  · rw [hbase, baseUrl_ofUrl_of_endsInPort (endsInPort_append _ p)]

/-! ## Addresses with a path -/

/-- The colon before a port comes behind the last slash. -/
theorem endsInPort_append_slash (before after : List Char) :
    EndsInPort (before ++ '/' :: after) ↔ EndsInPort ('/' :: after) := by
  constructor
  · rintro ⟨start, digits, heq, hne, hdigits⟩
    rcases List.append_eq_append_iff.mp heq with ⟨rest, -, hafter⟩ | ⟨rest, -, hcolon⟩
    · exact ⟨rest, digits, hafter, hne, hdigits⟩
    · -- otherwise the slash would be the colon or one of the digits
      rcases List.append_eq_cons_iff.mp hcolon.symm with ⟨-, h⟩ | ⟨rest', -, h⟩
      · cases h
      · have hmem : '/' ∈ digits := h ▸ List.mem_append_right _ (List.mem_cons_self ..)
        exact absurd hmem (notMem_of_forall_isDigit hdigits (by decide))
  · rintro ⟨start, digits, heq, hne, hdigits⟩
    exact ⟨before ++ start, digits, by rw [heq, List.append_assoc], hne, hdigits⟩

/-- An address with a scheme and a host, perhaps with a port and a path, and with slashes at its end. -/
structure Address where
  scheme : List Char
  host : List Char
  /-- the digits behind the host -/
  port : Option (List Char)
  /-- nothing, or a text from a slash on; the slashes at its end are counted apart -/
  path : List Char
  slashes : Nat
  scheme_plain : scheme ≠ [] ∧ ':' ∉ scheme ∧ '/' ∉ scheme
  host_plain : host ≠ [] ∧ ':' ∉ host ∧ '/' ∉ host
  port_digits : ∀ digits, port = some digits → digits ≠ [] ∧ ∀ c ∈ digits, c.isDigit
  path_rooted : path = [] ∨ ∃ rest, path = '/' :: rest
  path_trimmed : path.getLast? ≠ some '/'

namespace Address

/-- Scheme and host. -/
def origin (a : Address) : List Char := a.scheme ++ ':' :: '/' :: '/' :: a.host

/-- The address without the slashes at its end. -/
def trimmed (a : Address) : List Char :=
  a.origin ++ (match a.port with
    | some digits => ':' :: digits
    | none => []) ++ a.path

/-- The address as it is written. -/
def text (a : Address) : String := String.ofList (a.trimmed ++ List.replicate a.slashes '/')

/-- The address without the slashes at its end, with one port: its own if it has one, and `p` otherwise. -/
def withPort (a : Address) (p : UInt16) : String :=
  String.ofList (a.origin ++ ':' :: a.port.getD (toString p.toNat).toList ++ a.path)

variable (a : Address)

theorem trimmed_of_port {digits : List Char} (h : a.port = some digits) :
    a.trimmed = a.origin ++ ':' :: digits ++ a.path := by
  rw [trimmed, h]

theorem trimmed_of_noPort (h : a.port = none) : a.trimmed = a.origin ++ a.path := by
  rw [trimmed, h, List.append_nil]

theorem not_endsInPort_origin : ¬ EndsInPort a.origin := by
  have hsplit : a.origin = (a.scheme ++ [':', '/']) ++ '/' :: a.host := by simp [origin]
  rw [hsplit, endsInPort_append_slash]
  rintro ⟨before, digits, heq, -⟩
  have hcolon : ':' ∈ '/' :: a.host := heq ▸ List.mem_append_right _ (List.mem_cons_self ..)
  rcases List.mem_cons.mp hcolon with h | h
  · cases h
  · exact a.host_plain.2.1 h

/-- An address ends in a port if it has one and no path, or if its path does. -/
theorem endsInPort_trimmed : EndsInPort a.trimmed ↔ (a.path = [] ∧ a.port.isSome) ∨ EndsInPort a.path := by
  rcases a.path_rooted with hpath | ⟨rest, hpath⟩
  · rw [hpath]
    simp only [not_endsInPort_nil, or_false, true_and]
    cases hport : a.port with
    | none =>
      rw [a.trimmed_of_noPort hport, hpath, List.append_nil]
      exact iff_of_false a.not_endsInPort_origin (by simp)
    | some digits =>
      rw [a.trimmed_of_port hport, hpath, List.append_nil]
      exact iff_of_true ⟨a.origin, digits, rfl, a.port_digits digits hport⟩ rfl
  · have hne : a.path ≠ [] := by simp [hpath]
    simp only [hne, false_and, false_or]
    rw [trimmed, hpath, endsInPort_append_slash]

theorem getLast?_trimmed : a.trimmed.getLast? ≠ some '/' := by
  by_cases hpath : a.path = []
  · cases hport : a.port with
    | none =>
      rw [a.trimmed_of_noPort hport, hpath, List.append_nil, origin,
        List.getLast?_append_of_ne_nil _ (List.cons_ne_nil _ _), List.getLast?_cons_cons,
        List.getLast?_cons_cons, List.getLast?_cons_of_ne_nil a.host_plain.1]
      exact fun hlast => a.host_plain.2.2 (List.mem_of_getLast? hlast)
    | some digits => exact getLast?_of_endsInPort (a.endsInPort_trimmed.mpr (.inl ⟨hpath, by rw [hport]; rfl⟩))
  · rw [trimmed, List.getLast?_append_of_ne_nil _ hpath]
    exact a.path_trimmed

theorem trimSlashes_text : trimSlashes a.text.toList = a.trimmed := by
  rw [text, String.toList_ofList, trimSlashes_append a.getLast?_trimmed]

theorem withPort_of_port {digits : List Char} (h : a.port = some digits) (p : UInt16) :
    a.withPort p = String.ofList a.trimmed := by
  rw [withPort, a.trimmed_of_port h, h, Option.getD_some]

/-- An address without a port of its own is longer once it has one. -/
theorem withPort_ne_of_noPort (h : a.port = none) (p : UInt16) : String.ofList a.trimmed ≠ a.withPort p := by
  rw [withPort, a.trimmed_of_noPort h, ne_eq, String.ofList_inj]
  intro heq
  have hlength := congrArg List.length heq
  simp only [List.length_append, List.length_cons] at hlength
  omega

/-- A port behind a path is not in its place. -/
theorem withPort_ne_of_path (h : a.path ≠ []) (p : UInt16) :
    String.ofList (a.trimmed ++ ':' :: (toString p.toNat).toList) ≠ a.withPort p := by
  cases hport : a.port with
  | some digits =>
    -- a second port makes the address longer
    rw [a.withPort_of_port hport, ne_eq, String.ofList_inj]
    intro heq
    have hlength := congrArg List.length heq
    simp only [List.length_append, List.length_cons] at hlength
    omega
  | none =>
    -- a slash stands where the port should be
    obtain ⟨rest, hpath⟩ := a.path_rooted.resolve_left h
    rw [withPort, a.trimmed_of_noPort hport, hpath, ne_eq, String.ofList_inj, List.append_assoc,
      List.append_assoc, List.append_cancel_left_eq]
    exact fun heq => nomatch (List.cons.inj heq).1

/-- **Where the port of an endpoint is.** An endpoint that is made from an address and a port has its port behind
the host, and no other, exactly if the address has no path, or has a port of its own and a path that ends in a
colon and digits as well. In any case its address makes the same endpoint again, with whatever port. -/
theorem port_in_authority_iff (p : UInt16) (timeout : Millis) :
    ((ofUrl a.text (some p) timeout).baseUrl = a.withPort p ↔
      a.path = [] ∨ a.port.isSome ∧ EndsInPort a.path) ∧
    ∀ port timeout', (ofUrl (ofUrl a.text (some p) timeout).baseUrl port timeout').baseUrl =
      (ofUrl a.text (some p) timeout).baseUrl := by
  refine ⟨?_, baseUrl_ofUrl_baseUrl a.text p timeout⟩
  have hcases := baseUrl_ofUrl a.text p timeout
  rw [a.trimSlashes_text, a.endsInPort_trimmed] at hcases
  rcases hcases with ⟨hfound, hbase⟩ | ⟨hnone, hbase⟩
  · rw [hbase]
    cases hport : a.port with
    | some digits =>
      refine iff_of_true (a.withPort_of_port hport p).symm ?_
      exact hfound.imp And.left fun h => ⟨rfl, h⟩
    | none =>
      refine iff_of_false (a.withPort_ne_of_noPort hport p) ?_
      rintro (hpath | ⟨h, -⟩)
      · rw [hport, hpath] at hfound
        rcases hfound with ⟨-, h⟩ | h
        · cases h
        · exact not_endsInPort_nil h
      · cases h
  · rw [hbase]
    by_cases hpath : a.path = []
    · have hport : a.port = none := by
        cases hport : a.port with
        | none => rfl
        | some digits => exact absurd (.inl ⟨hpath, by rw [hport]; rfl⟩) hnone
      refine iff_of_true ?_ (.inl hpath)
      rw [withPort, a.trimmed_of_noPort hport, hport, hpath, List.append_nil, List.append_nil, Option.getD_none]
    · refine iff_of_false (a.withPort_ne_of_path hpath p) ?_
      rintro (h | ⟨-, h⟩)
      · exact hpath h
      · exact hnone (.inr h)

/-- The port of an address with a path is not seen: a second one is written behind the path. -/
theorem port_behind_path :
    let a : Address := ⟨"http".toList, "10.0.0.1".toList, some "8080".toList, "/api".toList, 0, by decide, by decide,
      by rintro _ ⟨⟩; exact ⟨by decide, List.all_eq_true.mp (by decide)⟩, .inr ⟨_, rfl⟩, by decide⟩
    a.text = "http://10.0.0.1:8080/api" ∧ a.withPort 9999 = a.text ∧
      (ofUrl a.text (some 9999) 5000).baseUrl = "http://10.0.0.1:8080/api:9999" ∧
      (ofUrl a.text (some 9999) 5000).baseUrl ≠ a.withPort 9999 := by
  decide +kernel

end Address

end RanSlicing.Endpoint
