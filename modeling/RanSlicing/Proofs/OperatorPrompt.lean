import RanSlicing.App.Operator
import Mathlib.Data.List.DropRight

/-!
# The operator prompt

The prompt reads its input line by line and keeps the last request that it has understood. A line is a request
if it holds a number from 0 to 4 and nothing else: blanks, perhaps a plus, decimal digits, blanks
(`Operator.Asks`). Every other line leaves the number of slices as it is, and the first line that is no text ends
the input (`Operator.keepsLastRequest`).

The number is shared with the control loop as one byte. The prompt writes it only with a number that was checked,
so whoever reads it at any moment finds a number of slices there.
-/

namespace RanSlicing

/-! ## Digits -/

namespace Numeral

/-- In radix ten the digits are the decimal digits, and their values are counted from the zero. -/
theorem digit?_ten (c : Char) : digit? 10 c = if c.isDigit then some (c.toNat - '0'.toNat) else none := by
  have hle (a b : Char) : a ≤ b ↔ a.toNat ≤ b.toNat := Iff.rfl
  have hdigit : ('0' ≤ c ∧ c ≤ '9') ↔ c.isDigit := by rw [Char.isDigit_iff_toNat, hle, hle]
  rw [digit?]
  by_cases hc : c.isDigit
  · have hlt : c.toNat - 48 < 10 := by
      have : c.toNat ≤ 57 := (Char.isDigit_iff_toNat.mp hc).2
      omega
    rw [if_pos (hdigit.mpr hc), if_pos hc]
    exact Option.filter_eq_some_iff.mpr ⟨rfl, decide_eq_true hlt⟩
  · rw [if_neg fun h => hc (hdigit.mp h), if_neg hc]
    -- a letter is worth ten or more
    refine Option.filter_eq_none_iff.mpr fun v hv => ?_
    split at hv
    · next hlower =>
      have hten : 10 ≤ c.toNat - 87 := by
        have : 97 ≤ c.toNat := hlower.1
        omega
      obtain rfl := Option.some.inj hv
      simpa using hten
    split at hv
    · next hupper =>
      have hten : 10 ≤ c.toNat - 55 := by
        have : 65 ≤ c.toNat := hupper.1
        omega
      obtain rfl := Option.some.inj hv
      simpa using hten
    cases hv

/-- Reading digits goes on from the number that was read before them. -/
theorem foldlM_digit?_ten (cs : List Char) (n : Nat) :
    cs.foldlM (fun acc c => (digit? 10 c).map (fun d => acc * 10 + d)) n =
      if cs.all Char.isDigit then some (Nat.ofDigitChars 10 cs n) else none := by
  induction cs generalizing n with
  | nil => rfl
  | cons c cs ih =>
    rw [List.foldlM_cons, digit?_ten, List.all_cons]
    by_cases hc : c.isDigit
    · rw [if_pos hc, hc, Bool.true_and, Nat.ofDigitChars_cons, Nat.mul_comm 10 n]
      exact ih _
    · rw [if_neg hc, Bool.eq_false_iff.mpr hc]
      rfl

/-- A decimal number is read if there are digits and nothing else. -/
theorem natOfDigits?_ten_eq_some_iff {cs : List Char} {n : Nat} :
    natOfDigits? 10 cs = some n ↔ cs ≠ [] ∧ (∀ c ∈ cs, c.isDigit) ∧ Nat.ofDigitChars 10 cs 0 = n := by
  rw [natOfDigits?]
  cases cs with
  | nil => simp
  | cons c cs =>
    rw [if_neg (by simp), foldlM_digit?_ten, ← List.all_eq_true]
    by_cases h : (c :: cs).all Char.isDigit
    · rw [if_pos h, Option.some.injEq]
      exact ⟨fun hn => ⟨List.cons_ne_nil _ _, h, hn⟩, fun hn => hn.2.2⟩
    · rw [if_neg h]
      exact iff_of_false (fun hn => nomatch hn) fun hn => h hn.2.1

end Numeral

namespace Operator

/-! ## Lines of input -/

/-- The lines of an input: each is ended by a line feed, or by the end of the input if it is not empty. -/
inductive Lines : List UInt8 → List (List UInt8) → Prop
  | none : Lines [] []
  | last {l : List UInt8} (hne : l ≠ []) (hl : 10 ∉ l) : Lines l [l]
  | ended {l input : List UInt8} {ls : List (List UInt8)} (hl : 10 ∉ l) (hls : Lines input ls) :
    Lines (l ++ 10 :: input) (l :: ls)

/-- An input has lines. -/
theorem lines_splitLines (input : List UInt8) : Lines input (splitLines (· = 10) input) := by
  induction input with
  | nil => exact .none
  | cons b input ih =>
    rw [splitLines]
    by_cases hb : b = 10
    · rw [if_pos (decide_eq_true hb), hb]
      exact .ended (l := []) List.not_mem_nil ih
    · rw [if_neg (by simpa using hb)]
      generalize splitLines (· = 10) input = ls at ih
      cases ih with
      | none => exact .last (List.cons_ne_nil _ _) (by simpa using Ne.symm hb)
      | last hne hl => exact .last (List.cons_ne_nil _ _) (List.not_mem_cons_of_ne_of_not_mem (Ne.symm hb) hl)
      | ended hl hls => exact .ended (List.not_mem_cons_of_ne_of_not_mem (Ne.symm hb) hl) hls

/-- It has no other lines. -/
theorem Lines.eq_splitLines {input : List UInt8} {ls : List (List UInt8)} (h : Lines input ls) :
    ls = splitLines (· = 10) input := by
  induction h with
  | none => rfl
  | @last l hne hl =>
    induction l with
    | nil => exact absurd rfl hne
    | cons b l ih =>
      obtain ⟨hb, hl⟩ := not_or.mp (List.mem_cons.not.mp hl)
      rw [splitLines, if_neg (by simpa using Ne.symm hb)]
      cases l with
      | nil => rfl
      | cons b' l => rw [← ih (List.cons_ne_nil _ _) hl]
  | @ended l input ls hl _ ihls =>
    induction l with
    | nil => rw [List.nil_append, splitLines, if_pos (decide_eq_true rfl), ihls]
    | cons b l ih =>
      obtain ⟨hb, hl⟩ := not_or.mp (List.mem_cons.not.mp hl)
      rw [List.cons_append, splitLines, if_neg (by simpa using Ne.symm hb), ← ih hl]

/-- The bytes of a text. -/
def utf8 (text : List Char) : List UInt8 := (String.ofList text).toUTF8.data.toList

theorem decodeLine?_eq_some_iff {bytes : List UInt8} {text : List Char} :
    decodeLine? bytes = some text ↔ utf8 text = bytes := by
  rw [decodeLine?, String.fromUTF8?]
  constructor
  · intro h
    obtain ⟨s, hs, rfl⟩ := Option.map_eq_some_iff.mp h
    split at hs
    · obtain rfl := Option.some.inj hs
      rw [utf8, String.ofList_toList]
      rfl
    · cases hs
  · rintro rfl
    have hvalid : (String.ofList text).toUTF8.IsValidUTF8 := (String.ofList text).isValidUTF8
    have hbytes : (⟨(utf8 text).toArray⟩ : ByteArray) = (String.ofList text).toUTF8 := rfl
    rw [hbytes, dif_pos hvalid, Option.map_some]
    exact congrArg some String.toList_ofList

/-- The texts of lines up to the first line that is no text. -/
def Legible (ls : List (List UInt8)) (texts : List (List Char)) : Prop :=
  ∃ rest, ls = texts.map utf8 ++ rest ∧ ∀ l, rest.head? = some l → ∀ text, utf8 text ≠ l

/-- The texts that the prompt reads from an input. -/
def Reads (input : List UInt8) (texts : List (List Char)) : Prop := ∃ ls, Lines input ls ∧ Legible ls texts

/-- The texts of lines, as the prompt computes them. -/
def readLines (ls : List (List UInt8)) : List (List Char) :=
  ((ls.map decodeLine?).takeWhile Option.isSome).filterMap id

theorem readLines_of_head? {rest : List (List UInt8)} (h : ∀ l, rest.head? = some l → ∀ text, utf8 text ≠ l) :
    readLines rest = [] := by
  cases rest with
  | nil => rfl
  | cons l rest =>
    have hl : decodeLine? l = none := by
      refine Option.eq_none_iff_forall_ne_some.mpr fun text htext => ?_
      exact h l rfl text (decodeLine?_eq_some_iff.mp htext)
    simp [readLines, hl]

theorem readLines_append (ts : List (List Char)) (rest : List (List UInt8)) :
    readLines (ts.map utf8 ++ rest) = ts ++ readLines rest := by
  induction ts with
  | nil => rfl
  | cons t ts ih =>
    have ht : decodeLine? (utf8 t) = some t := decodeLine?_eq_some_iff.mpr rfl
    rw [List.cons_append, ← ih]
    simp [readLines, ht]

theorem legible_iff {ls : List (List UInt8)} {ts : List (List Char)} : Legible ls ts ↔ ts = readLines ls := by
  constructor
  · rintro ⟨rest, rfl, hrest⟩
    rw [readLines_append, readLines_of_head? hrest, List.append_nil]
  · rintro rfl
    induction ls with
    | nil => exact ⟨[], rfl, by simp⟩
    | cons l ls ih =>
      cases hl : decodeLine? l with
      | none =>
        have htexts : readLines (l :: ls) = [] := by simp [readLines, hl]
        refine ⟨l :: ls, by rw [htexts]; rfl, ?_⟩
        rintro _ ⟨⟩ text htext
        rw [decodeLine?_eq_some_iff.mpr htext] at hl
        cases hl
      | some text =>
        obtain ⟨rest, hls, hrest⟩ := ih
        have htexts : readLines (l :: ls) = text :: readLines ls := by simp [readLines, hl]
        refine ⟨rest, ?_, hrest⟩
        rw [htexts, List.map_cons, List.cons_append, ← hls, decodeLine?_eq_some_iff.mp hl]

/-- An input is read in one way. -/
theorem reads_iff {input : List UInt8} {ts : List (List Char)} :
    Reads input ts ↔ ts = readLines (splitLines (· = 10) input) := by
  constructor
  · rintro ⟨ls, hls, hts⟩
    rw [← hls.eq_splitLines]
    exact legible_iff.mp hts
  · exact fun hts => ⟨_, lines_splitLines input, legible_iff.mpr hts⟩

/-! ## Requests -/

/-- A line that asks for `n` slices: a number up to four in decimal digits, perhaps with a plus before it, and
blanks around. -/
def Asks (line : List Char) (n : SliceCount) : Prop :=
  ∃ before sign digits after, line = before ++ (sign ++ digits) ++ after ∧
    (∀ c ∈ before, isBlank c) ∧ (∀ c ∈ after, isBlank c) ∧ (sign = [] ∨ sign = ['+']) ∧
    digits ≠ [] ∧ (∀ c ∈ digits, c.isDigit) ∧ Nat.ofDigitChars 10 digits 0 = n.val

theorem not_isBlank_of_isDigit {c : Char} (hc : c.isDigit) : ¬ isBlank c := by
  obtain ⟨hzero, hnine⟩ := Char.isDigit_iff_toNat.mp hc
  have hzero : 48 ≤ c.toNat := hzero
  have hnine : c.toNat ≤ 57 := hnine
  simp only [isBlank, decide_eq_true_eq]
  omega

/-- A line is what is left of it without blanks, and the blanks around that. -/
theorem exists_eq_trim (line : List Char) : ∃ before after, line = before ++ trim line ++ after ∧
    (∀ c ∈ before, isBlank c) ∧ ∀ c ∈ after, isBlank c := by
  refine ⟨line.takeWhile isBlank, (line.dropWhile isBlank).rtakeWhile isBlank, ?_,
    fun c hc => List.mem_takeWhile_imp hc, fun c hc => List.mem_rtakeWhile_imp hc⟩
  have hright : trim line ++ (line.dropWhile isBlank).rtakeWhile isBlank = line.dropWhile isBlank :=
    List.rdropWhile_append_rtakeWhile
  rw [List.append_assoc, hright, List.takeWhile_append_dropWhile]

/-- A text with no blank at its ends is what is left of it and any blanks around it. -/
theorem trim_of_blanks {before text after : List Char} (hbefore : ∀ c ∈ before, isBlank c)
    (hafter : ∀ c ∈ after, isBlank c) (hfirst : ∀ c, text.head? = some c → ¬ isBlank c)
    (hlast : ∀ c, text.getLast? = some c → ¬ isBlank c) (hne : text ≠ []) :
    trim (before ++ text ++ after) = text := by
  obtain ⟨c, r, rfl⟩ := List.exists_cons_of_ne_nil hne
  have hleft : (before ++ (c :: r) ++ after).dropWhile isBlank = (c :: r) ++ after := by
    rw [List.append_assoc, List.dropWhile_append_of_pos hbefore]
    exact List.dropWhile_cons_of_neg (hfirst c rfl)
  have hright : ((c :: r) ++ after).rdropWhile isBlank = (c :: r).rdropWhile isBlank := by
    rw [List.rdropWhile, List.reverse_append, List.dropWhile_append_of_pos (by simpa using hafter)]
    rfl
  rw [trim, hleft]
  exact hright.trans (List.rdropWhile_eq_self_iff.mpr fun h => hlast _ (List.getLast?_eq_some_getLast h))

/-- What is left of a text without a plus at its beginning. -/
def dropPlus : List Char → List Char
  | '+' :: r => r
  | r => r

theorem dropPlus_eq_iff {text digits : List Char} (hne : digits ≠ []) (hdigits : ∀ c ∈ digits, c.isDigit) :
    dropPlus text = digits ↔ ∃ sign, text = sign ++ digits ∧ (sign = [] ∨ sign = ['+']) := by
  constructor
  · rintro rfl
    fun_cases dropPlus text with
    | case1 r => exact ⟨['+'], rfl, .inr rfl⟩
    | case2 => exact ⟨[], rfl, .inl rfl⟩
  · rintro ⟨sign, rfl, rfl | rfl⟩
    · rw [List.nil_append, dropPlus]
      -- a plus is no digit
      rintro r rfl
      exact absurd (hdigits '+' (List.mem_cons_self ..)) (by decide)
    · rfl

/-- The number on a line is read if the line has an optional plus, decimal digits and blanks around, and the
number fits in a byte. -/
theorem parseCount_eq_ok_iff {line : List Char} {k : Nat} :
    parseCount line = .ok k ↔ k ≤ 255 ∧ ∃ sign digits, trim line = sign ++ digits ∧
      (sign = [] ∨ sign = ['+']) ∧ digits ≠ [] ∧ (∀ c ∈ digits, c.isDigit) ∧
      Nat.ofDigitChars 10 digits 0 = k := by
  have hread : parseCount line = .ok k ↔
      Numeral.natOfDigits? 10 (dropPlus (trim line)) = some k ∧ k ≤ 255 := by
    have hfilter : parseCount line = .ok k ↔
        (Numeral.natOfDigits? 10 (dropPlus (trim line))).filter (· ≤ 255) = some k := by
      rw [parseCount]
      split
      · next n hn =>
        have hn : (Numeral.natOfDigits? 10 (dropPlus (trim line))).filter (· ≤ 255) = some n := hn
        rw [hn, Except.ok.injEq, Option.some.injEq]
      · next hn =>
        have hn : (Numeral.natOfDigits? 10 (dropPlus (trim line))).filter (· ≤ 255) = none := hn
        rw [hn]
        exact iff_of_false (fun h => nomatch h) fun h => nomatch h
    rw [hfilter, Option.filter_eq_some_iff, decide_eq_true_eq]
  rw [hread, Numeral.natOfDigits?_ten_eq_some_iff]
  constructor
  · rintro ⟨⟨hne, hdigits, hval⟩, hle⟩
    obtain ⟨sign, htrim, hsign⟩ := (dropPlus_eq_iff hne hdigits).mp rfl
    exact ⟨hle, sign, _, htrim, hsign, hne, hdigits, hval⟩
  · rintro ⟨hle, sign, digits, htrim, hsign, hne, hdigits, hval⟩
    rw [(dropPlus_eq_iff hne hdigits).mpr ⟨sign, htrim, hsign⟩]
    exact ⟨⟨hne, hdigits, hval⟩, hle⟩

/-- A line asks for a number of slices exactly if that is the number that is read from it. -/
theorem asks_iff {line : List Char} {n : SliceCount} : Asks line n ↔ parseCount line = .ok n.val := by
  rw [parseCount_eq_ok_iff]
  constructor
  · rintro ⟨before, sign, digits, after, rfl, hbefore, hafter, hsign, hne, hdigits, hval⟩
    have hn : n.val ≤ 4 := n.le_max
    refine ⟨by omega, sign, digits, trim_of_blanks hbefore hafter ?_ ?_ ?_, hsign, hne, hdigits, hval⟩
    · intro c hc
      rcases hsign with rfl | rfl
      · exact not_isBlank_of_isDigit (hdigits c (List.mem_of_mem_head? hc))
      · cases hc
        decide
    · intro c hc
      rw [List.getLast?_append_of_ne_nil _ hne] at hc
      exact not_isBlank_of_isDigit (hdigits c (List.mem_of_mem_getLast? hc))
    · exact fun h => hne (List.append_eq_nil_iff.mp h).2
  · rintro ⟨-, sign, digits, htrim, hsign, hne, hdigits, hval⟩
    obtain ⟨before, after, hline, hbefore, hafter⟩ := exists_eq_trim line
    rw [htrim] at hline
    exact ⟨before, sign, digits, after, hline, hbefore, hafter, hsign, hne, hdigits, hval⟩

/-! ## One line -/

theorem step_of_asks {line : List Char} {n : SliceCount} (h : Asks line n) (count : SliceCount) :
    step count line = n := by
  rw [step, asks_iff.mp h]
  simp only [Bounded.ofNat_val]
  rfl

theorem step_of_not_asks {line : List Char} (h : ∀ n, ¬ Asks line n) (count : SliceCount) :
    step count line = count := by
  rw [step]
  cases hk : parseCount line with
  | error e => rfl
  | ok k =>
    cases hn : Bounded.ofNat .sliceCount k with
    | error e => simp only [hn]; rfl
    | ok n =>
      obtain rfl := Bounded.ofNat_eq_ok_iff.mp hn
      exact absurd (asks_iff.mpr hk) (h n)

/-- The last number of slices that some texts ask for, or `count` if they ask for none. -/
def LastAsked (count : SliceCount) (texts : List (List Char)) (n : SliceCount) : Prop :=
  (∃ before line after, texts = before ++ line :: after ∧ Asks line n ∧ ∀ l ∈ after, ∀ k, ¬ Asks l k) ∨
    n = count ∧ ∀ l ∈ texts, ∀ k, ¬ Asks l k

/-- After one more line the count is again the last that was asked for. -/
theorem lastAsked_step {count n : SliceCount} {texts : List (List Char)} (h : LastAsked count texts n)
    (line : List Char) : LastAsked count (texts ++ [line]) (step n line) := by
  by_cases hline : ∃ k, Asks line k
  · obtain ⟨k, hk⟩ := hline
    rw [step_of_asks hk]
    exact .inl ⟨texts, line, [], rfl, hk, fun _ h => absurd h List.not_mem_nil⟩
  · have hnone : ∀ k, ¬ Asks line k := not_exists.mp hline
    rw [step_of_not_asks hnone]
    rcases h with ⟨before, l, after, rfl, hl, hafter⟩ | ⟨rfl, htexts⟩
    · refine .inl ⟨before, l, after ++ [line], by simp, hl, ?_⟩
      exact List.forall_mem_append.mpr ⟨hafter, List.forall_mem_singleton.mpr hnone⟩
    · exact .inr ⟨rfl, List.forall_mem_append.mpr ⟨htexts, List.forall_mem_singleton.mpr hnone⟩⟩

theorem lastAsked_foldl (count : SliceCount) (texts : List (List Char)) :
    LastAsked count texts (texts.foldl step count) := by
  induction texts using List.reverseRecOn with
  | nil => exact .inr ⟨rfl, fun _ h => absurd h List.not_mem_nil⟩
  | append_singleton texts line ih =>
    rw [List.foldl_append]
    exact lastAsked_step ih line

/-! ## The shared byte -/

/-- What a line does to the byte that holds the number of slices. -/
def store (byte : UInt8) (line : List Char) : UInt8 :=
  match parseCount line with
  | .ok k => match Bounded.ofNat .sliceCount k with
    | .ok n => UInt8.ofNat n.val
    | .error _ => byte
  | .error _ => byte

/-- The byte after some lines. -/
def held (count : SliceCount) (texts : List (List Char)) : UInt8 :=
  texts.foldl store (UInt8.ofNat count.val)

/-- A byte that holds a number of slices holds one again after any line. -/
theorem store_ofNat (count : SliceCount) (line : List Char) :
    store (UInt8.ofNat count.val) line = UInt8.ofNat (step count line).val := by
  rw [store, step]
  cases parseCount line with
  | error e => rfl
  | ok k => cases hk : Bounded.ofNat .sliceCount k <;> simp [hk, Except.toOption]

/-- At every moment the byte holds the count. -/
theorem toNat_held (count : SliceCount) (texts : List (List Char)) :
    (held count texts).toNat = (texts.foldl step count).val := by
  have hbyte : held count texts = UInt8.ofNat (texts.foldl step count).val := by
    rw [held]
    induction texts generalizing count with
    | nil => rfl
    | cons line texts ih => rw [List.foldl_cons, List.foldl_cons, store_ofNat, ih]
  have hle : (texts.foldl step count).val ≤ 4 := (texts.foldl step count).le_max
  rw [hbyte, UInt8.toNat_ofNat_of_lt' (Nat.lt_of_le_of_lt hle (by decide))]

/-! ## The prompt -/

/-- What the prompt does with an input: it reads `texts` from it and keeps the last request among them. -/
structure KeepsLastRequest (count : SliceCount) (input : List UInt8) (texts : List (List Char)) : Prop where
  /-- these are the lines before the first one that is no text, and all of them -/
  read : ∀ ts, Reads input ts ↔ ts = texts
  last : LastAsked count texts (run count input)
  /-- this is what the shared byte holds in the end -/
  stored : (held count texts).toNat = (run count input).val
  /-- and at no moment before it was out of range -/
  inRange : ∀ seen, seen <+: texts → (held count seen).toNat ≤ 4
  /-- a line that is no request changes nothing -/
  others : ∀ seen line, seen ++ [line] <+: texts → (∀ n, ¬ Asks line n) →
    held count (seen ++ [line]) = held count seen

/-- **The prompt keeps the last request.** Whatever bytes are typed: the number of slices afterwards is the one
on the last line that asks for a number of slices, among the lines before the first that is no text, and the one
from the start if there is no such line. -/
theorem keepsLastRequest (count : SliceCount) (input : List UInt8) :
    ∃ texts, KeepsLastRequest count input texts := by
  refine ⟨readLines (splitLines (· = 10) input), fun _ => reads_iff, lastAsked_foldl count _, toNat_held count _,
    fun seen _ => ?_, fun seen line _ hline => ?_⟩
  · rw [toNat_held]
    exact (seen.foldl step count).le_max
  · rw [← UInt8.toNat_inj, toNat_held, toNat_held, List.foldl_append]
    exact congrArg Bounded.val (step_of_not_asks hline _)

-- leading zeros, a carriage return, a number out of range, and a request behind a line that is no text
example : run ⟨1, by decide⟩ [43, 48, 51, 13, 10, 57, 10, 255, 10, 50] = ⟨3, by decide⟩ := by
  decide +kernel

end Operator

end RanSlicing
