import RanSlicing.Files.Path

/-!
# Names and paths

A text is read as a path part by part (`Path.parts`), so what it leads to is known from its parts: those of a
file below a directory are the parts of both, and the text of a path has the names of the path as its parts and
leads back to it (`Path.ofString_toString`). The extension of a file is found in its last part.
-/

namespace RanSlicing

namespace Path

/-! ## Parts -/

/-- A name that leads to an entry of the directory that it is looked up in. -/
structure Plain (name : String) : Prop where
  noSlash : '/' ∉ name.toList
  ne_empty : name ≠ ""
  ne_dot : name ≠ "."
  ne_dots : name ≠ ".."

/-- A slash separates parts. -/
theorem parts_append_slash (s t : String) : parts (s ++ "/" ++ t) = parts s ++ parts t := by
  have hlist : (s ++ "/" ++ t).toList = s.toList ++ '/' :: t.toList := by simp
  rw [parts, hlist, List.splitOn_append_cons_self, List.map_append, List.filter_append]
  rfl

theorem parts_of_plain {name : String} (h : Plain name) : parts name = [name] := by
  rw [parts, List.splitOn_eq_singleton h.noSlash, List.map_singleton, String.ofList_toList,
    List.filter_cons_of_pos (by simp [h.ne_empty, h.ne_dot]), List.filter_nil]

theorem parts_empty : parts "" = [] := by
  simp [parts]

/-- The parts of a file below a directory; an absolute name leaves the directory out. -/
theorem parts_join (dir name : String) :
    parts (join dir name) = (if name.startsWith "/" then [] else parts dir) ++ parts name := by
  simp only [join]
  by_cases hname : name.startsWith "/" = true
  · rw [if_pos (.inr hname), if_pos hname, List.nil_append]
  · rw [if_neg hname]
    by_cases hdir : dir = ""
    · rw [if_pos (.inl hdir), hdir, parts_empty, List.nil_append]
    · rw [if_neg (not_or.mpr ⟨hdir, hname⟩)]
      split
      · next hend =>
        -- the slash is there already
        have hsuffix : ['/'] <:+ dir.toList := by
          simpa [← String.endsWith_toSlice] using hend
        obtain ⟨base, hbase⟩ := hsuffix
        have hsplit : dir = String.ofList base ++ "/" ++ "" := by
          rw [String.append_empty, ← String.ofList_toList (s := dir), ← hbase, String.ofList_append]
        rw [hsplit, parts_append_slash (String.ofList base) "", parts_empty, List.append_nil,
          String.append_empty, parts_append_slash]
      · rw [parts_append_slash]

/-- A part of a text, taken as a step: a double dot takes back the name before it. -/
def enter (p : Path) (part : String) : Path := if part = ".." then p.dropLast else p ++ [part]

/-- A text leads where its parts lead one after the other. -/
theorem ofString_eq_foldl (s : String) : ofString s = (parts s).foldl enter [] := rfl

theorem enter_of_plain {name : String} (h : Plain name) (p : Path) : enter p name = p ++ [name] :=
  if_neg h.ne_dots

theorem foldl_enter_of_plain {names : List String} (h : ∀ name ∈ names, Plain name) (p : Path) :
    names.foldl enter p = p ++ names := by
  induction names generalizing p with
  | nil => exact (List.append_nil p).symm
  | cons name rest ih =>
    obtain ⟨hname, hrest⟩ := List.forall_mem_cons.mp h
    rw [List.foldl_cons, enter_of_plain hname, ih hrest, List.append_assoc]
    rfl

/-- A text leads to a path that ends in its last part. -/
theorem exists_ofString_of_parts {s name : String} {above : List String}
    (hparts : parts s = above ++ [name]) (h : Plain name) : ∃ dir, ofString s = dir ++ [name] := by
  rw [ofString_eq_foldl, hparts, List.foldl_append, List.foldl_cons, enter_of_plain h]
  exact ⟨_, rfl⟩

/-- A name below a directory leads to an entry of the directory. -/
theorem ofString_join {name : String} (h : Plain name) (dir : String) :
    ofString (join dir name) = ofString dir ++ [name] := by
  have hstart : ¬ name.startsWith "/" = true := by
    intro hs
    rw [String.startsWith_string_iff] at hs
    exact h.noSlash (hs.subset (List.mem_singleton.mpr rfl))
  rw [ofString_eq_foldl, parts_join, if_neg hstart, parts_of_plain h, List.foldl_append, List.foldl_cons,
    enter_of_plain h]
  rfl

/-! ## The text of a path -/

/-- The pieces between separators have no separator in them. -/
theorem notMem_of_mem_splitOn {β : Type} [BEq β] [LawfulBEq β] {a : β} {xs piece : List β}
    (h : piece ∈ xs.splitOn a) : a ∉ piece := by
  induction xs generalizing piece with
  | nil =>
    rw [List.splitOn_nil, List.mem_singleton] at h
    rw [h]
    exact List.not_mem_nil
  | cons x rest ih =>
    rw [List.splitOn_cons_eq_if_modifyHead] at h
    split at h
    · rcases List.mem_cons.mp h with rfl | h
      · exact List.not_mem_nil
      · exact ih h
    · next hx =>
      obtain ⟨first, others, hsplit⟩ := List.exists_cons_of_ne_nil (List.splitOn_ne_nil a rest)
      rw [hsplit] at h ih
      rcases List.mem_cons.mp h with rfl | h
      · rw [List.mem_cons, not_or]
        exact ⟨fun hax => hx (beq_iff_eq.mpr hax.symm), ih (List.mem_cons_self ..)⟩
      · exact ih (List.mem_cons_of_mem _ h)

theorem plain_of_mem_parts {s part : String} (h : part ∈ parts s) (hdots : part ≠ "..") : Plain part := by
  obtain ⟨hmem, hne⟩ := List.mem_filter.mp h
  obtain ⟨piece, hpiece, rfl⟩ := List.mem_map.mp hmem
  rw [decide_eq_true_eq] at hne
  refine ⟨?_, hne.1, hne.2, hdots⟩
  rw [String.toList_ofList]
  exact notMem_of_mem_splitOn hpiece

theorem plain_of_mem_foldl_enter {names : List String} (h : ∀ name ∈ names, name ≠ ".." → Plain name)
    {p : Path} (hp : ∀ name ∈ p, Plain name) : ∀ name ∈ names.foldl enter p, Plain name := by
  induction names generalizing p with
  | nil => exact hp
  | cons part rest ih =>
    obtain ⟨hpart, hrest⟩ := List.forall_mem_cons.mp h
    refine ih hrest ?_
    rw [enter]
    split
    · exact fun n hn => hp n ((List.dropLast_sublist p).subset hn)
    · next hne => exact List.forall_mem_append.mpr ⟨hp, List.forall_mem_singleton.mpr (hpart hne)⟩

/-- The names of a path that a text leads to are plain. -/
theorem plain_of_mem_ofString {s : String} : ∀ name ∈ ofString s, Plain name :=
  plain_of_mem_foldl_enter (fun _ => plain_of_mem_parts) fun _ hn => absurd hn List.not_mem_nil

/-- The text of a path has the names of the path as its parts. -/
theorem parts_toString {p : Path} (h : ∀ name ∈ p, Plain name) : parts (toString p) = p := by
  rw [toString]
  induction p with
  | nil => exact parts_empty
  | cons name rest ih =>
    obtain ⟨hname, hrest⟩ := List.forall_mem_cons.mp h
    cases rest with
    | nil => rw [String.intercalate_singleton, parts_of_plain hname]
    | cons next more =>
      rw [String.intercalate_cons_cons, parts_append_slash, parts_of_plain hname, ih hrest]
      rfl

/-- The text of a path leads back to it. -/
theorem ofString_toString {p : Path} (h : ∀ name ∈ p, Plain name) : ofString (toString p) = p := by
  rw [ofString_eq_foldl, parts_toString h, foldl_enter_of_plain h, List.nil_append]

/-! ## Extensions -/

/-- What stands behind the last dot of a name is its extension. -/
theorem extensionOf?_append {stem ext : String} (hext : '.' ∉ ext.toList) (hstem : stem ≠ "") :
    extensionOf? (stem ++ "." ++ ext) = some ext := by
  have hreverse : (stem ++ "." ++ ext).toList.reverse =
      ext.toList.reverse ++ '.' :: stem.toList.reverse := by simp
  have hafter : (ext.toList.reverse ++ '.' :: stem.toList.reverse).takeWhile (· ≠ '.') =
      ext.toList.reverse := by
    rw [List.takeWhile_append_of_pos, List.takeWhile_cons_of_neg (by simp), List.append_nil]
    intro c hc
    rw [decide_eq_true_eq]
    rintro rfl
    exact hext (List.mem_reverse.mp hc)
  have hlength : ext.toList.reverse.length ≠ (stem ++ "." ++ ext).length := by
    have hdot : ".".length = 1 := rfl
    rw [List.length_reverse, String.length_toList, String.length_append, String.length_append]
    omega
  have hbefore : ((ext.toList.reverse ++ '.' :: stem.toList.reverse).drop
      ext.toList.reverse.length).drop 1 = stem.toList.reverse := by
    rw [List.drop_left, List.drop_one, List.tail_cons]
  simp only [extensionOf?, hreverse, hafter, hbefore]
  rw [if_neg, List.reverse_reverse, String.ofList_toList]
  rw [not_or]
  refine ⟨hlength, ?_⟩
  simpa using hstem

/-! ## What is above a path -/

/-- The directories above a path and the path itself are not longer than it. -/
theorem length_le_of_mem_ancestry {p q : Path} (h : q ∈ ancestry p) : q.length ≤ p.length := by
  obtain ⟨n, -, rfl⟩ := List.mem_map.mp h
  rw [List.length_take]
  exact Nat.min_le_right _ _

theorem mem_ancestry_self {p : Path} (h : p ≠ []) : p ∈ ancestry p := by
  have hlen : 0 < p.length := List.length_pos_iff.mpr h
  refine List.mem_map.mpr ⟨p.length - 1, List.mem_range.mpr (by omega), ?_⟩
  exact List.take_of_length_le (by omega)

end Path

end RanSlicing
