import CloudBilling.Settings
import Mathlib.Data.List.Infix

/-!
# Placeholders in paths

A substitution replaces the leftmost occurrence of a pattern and goes on behind it, so the parts of
the text that it keeps and the replacements stand side by side in the result.  An occurrence of the
pattern in the result begins in a part that was kept, if the first character of the pattern is not
in the replacement; it cannot end there, since it would have been replaced, and it cannot go on into
a replacement, if the pattern does not have the first character of that.  So a path of the settings
has no placeholder left once it is resolved against a base directory without an opening brace: the
placeholder has such a brace only at its front, and no slash.
-/

namespace CloudBilling

namespace Text

variable {pattern replacement before after text filled : List Char} {c : Char}

/-- No occurrence of a pattern in a text begins before a position. -/
def NoneBefore (pattern text : List Char) (position : Nat) : Prop :=
  ∀ front behind, text = front ++ pattern ++ behind → position ≤ front.length

/-- A text with the occurrences of a pattern replaced: the leftmost one first, and then those in
the text behind it. -/
inductive Substituted (pattern replacement : List Char) : List Char → List Char → Prop
  | absent {text : List Char} : ¬ pattern <:+: text → Substituted pattern replacement text text
  | leftmost (before : List Char) {after filled : List Char} :
      NoneBefore pattern (before ++ pattern ++ after) before.length →
      Substituted pattern replacement after filled →
      Substituted pattern replacement (before ++ pattern ++ after) (before ++ replacement ++ filled)

/-! ## One pass -/

theorem eq_append_drop (nonempty : pattern ≠ []) (here : pattern <+: c :: text) :
    c :: text = pattern ++ text.drop (pattern.length - 1) := by
  obtain ⟨behind, split⟩ := here
  cases pattern with
  | nil => exact (nonempty rfl).elim
  | cons first tail =>
      obtain ⟨rfl, rfl⟩ := List.cons_eq_cons.mp split
      simp

theorem substitute_append (nonempty : pattern ≠ []) (after : List Char) :
    substitute pattern replacement (pattern ++ after) =
      replacement ++ substitute pattern replacement after := by
  cases pattern with
  | nil => exact (nonempty rfl).elim
  | cons first tail =>
      rw [List.cons_append, substitute]
      simp

theorem substitute_cons (elsewhere : ¬ pattern <+: c :: text) :
    substitute pattern replacement (c :: text) = c :: substitute pattern replacement text := by
  rw [substitute, if_neg]
  rintro ⟨_, here⟩
  exact elsewhere (List.isPrefixOf_iff_prefix.mp here)

/-- A text without the pattern stays as it is. -/
theorem substitute_of_absent (absent : ¬ pattern <:+: text) :
    substitute pattern replacement text = text := by
  induction text with
  | nil => rw [substitute]
  | cons c rest ih =>
      rw [List.infix_cons_iff, not_or] at absent
      rw [substitute_cons absent.1, ih absent.2]

namespace NoneBefore

variable {position : Nat}

theorem elsewhere (none : NoneBefore pattern text (position + 1)) : ¬ pattern <+: text := by
  rintro ⟨behind, rfl⟩
  exact Nat.not_succ_le_zero position (none [] behind rfl)

theorem of_cons (none : NoneBefore pattern (c :: text) (position + 1)) :
    NoneBefore pattern text position := by
  rintro front behind rfl
  exact Nat.le_of_succ_le_succ (none (c :: front) behind rfl)

theorem cons (elsewhere : ¬ pattern <+: c :: text) (none : NoneBefore pattern text position) :
    NoneBefore pattern (c :: text) (position + 1) := by
  intro front behind split
  cases front with
  | nil => exact (elsewhere ⟨behind, split.symm⟩).elim
  | cons other front =>
      obtain ⟨_, rest⟩ := List.cons_eq_cons.mp split
      exact Nat.succ_le_succ (none front behind rest)

end NoneBefore

/-- The leftmost occurrence is replaced, and what is before it is kept. -/
theorem substitute_of_noneBefore (nonempty : pattern ≠ [])
    (none : NoneBefore pattern (before ++ pattern ++ after) before.length) :
    substitute pattern replacement (before ++ pattern ++ after) =
      before ++ replacement ++ substitute pattern replacement after := by
  induction before with
  | nil => exact substitute_append nonempty after
  | cons c before ih =>
      have elsewhere : ¬ pattern <+: c :: (before ++ pattern ++ after) := none.elsewhere
      calc
        substitute pattern replacement (c :: (before ++ pattern ++ after)) =
            c :: substitute pattern replacement (before ++ pattern ++ after) :=
          substitute_cons elsewhere
        _ = c :: (before ++ replacement ++ substitute pattern replacement after) := by
          rw [ih none.of_cons]

theorem Substituted.cons (elsewhere : ¬ pattern <+: c :: text)
    (substituted : Substituted pattern replacement text filled) :
    Substituted pattern replacement (c :: text) (c :: filled) := by
  cases substituted with
  | absent absent => exact .absent fun found => (List.infix_cons_iff.mp found).elim elsewhere absent
  | leftmost before none rest => exact .leftmost (c :: before) (none.cons elsewhere) rest

/-- A substitution replaces the leftmost occurrences one after the other, and it is the only text
that comes of it. -/
theorem substituted_iff (nonempty : pattern ≠ []) :
    Substituted pattern replacement text filled ↔
      filled = substitute pattern replacement text := by
  constructor
  · intro substituted
    induction substituted with
    | absent absent => exact (substitute_of_absent absent).symm
    | leftmost before none _ ih => rw [substitute_of_noneBefore nonempty none, ih]
  · rintro rfl
    fun_induction substitute pattern replacement text with
    | case1 => exact .absent fun found => nonempty (List.infix_nil.mp found)
    | case2 c rest here ih =>
        rw [eq_append_drop nonempty (List.isPrefixOf_iff_prefix.mp here.2)]
        exact .leftmost [] (fun front _ _ => Nat.zero_le front.length) ih
    | case3 c rest elsewhere ih =>
        refine ih.cons fun here => elsewhere ⟨nonempty, ?_⟩
        exact List.isPrefixOf_iff_prefix.mpr here

/-! ## What is left of a pattern -/

variable {first start : Char} {tail front word : List Char}

/-- A word that does not begin in what is before a text is found in the text itself. -/
theorem infix_of_infix_append (fresh : first ∉ front)
    (found : first :: tail <:+: front ++ text) : first :: tail <:+: text := by
  induction front with
  | nil => exact found
  | cons c front ih =>
      rw [List.mem_cons, not_or] at fresh
      rcases List.infix_cons_iff.mp found with here | behind
      · exact (fresh.1 (List.cons_prefix_cons.mp here).1).elim
      · exact ih fresh.2 behind

/-- A word at the front of the result was there before, if a replacement cannot be entered with any
of its characters. -/
theorem prefix_of_prefix_substitute (apart : start ∉ word)
    (found : word <+: substitute pattern (start :: replacement) text) : word <+: text := by
  fun_induction substitute pattern (start :: replacement) text generalizing word with
  | case1 => exact found
  | case2 c rest here ih =>
      cases word with
      | nil => exact List.nil_prefix
      | cons d word =>
          -- A replacement stands here, so the word would begin with its first character.
          obtain ⟨rfl, _⟩ := List.cons_prefix_cons.mp found
          exact (apart List.mem_cons_self).elim
  | case3 c rest elsewhere ih =>
      cases word with
      | nil => exact List.nil_prefix
      | cons d word =>
          obtain ⟨rfl, behind⟩ := List.cons_prefix_cons.mp found
          exact List.cons_prefix_cons.mpr ⟨rfl, ih (List.not_mem_of_not_mem_cons apart) behind⟩

/-- A pattern is gone after a substitution, if an occurrence can neither begin in a replacement nor
reach into one. -/
theorem not_infix_substitute (fresh : first ∉ start :: replacement) (apart : start ∉ tail) :
    ¬ first :: tail <:+: substitute (first :: tail) (start :: replacement) text := by
  fun_induction substitute (first :: tail) (start :: replacement) text with
  | case1 => simp
  | case2 c rest here ih => exact fun found => ih (infix_of_infix_append fresh found)
  | case3 c rest elsewhere ih =>
      intro found
      rcases List.infix_cons_iff.mp found with here | behind
      · -- The first character was kept, so the others stood behind it before as well.
        obtain ⟨rfl, further⟩ := List.cons_prefix_cons.mp here
        have before : first :: tail <+: first :: rest :=
          List.cons_prefix_cons.mpr ⟨rfl, prefix_of_prefix_substitute apart further⟩
        exact elsewhere ⟨List.cons_ne_nil _ _, List.isPrefixOf_iff_prefix.mpr before⟩
      · exact ih behind

end Text

namespace Settings

variable {base path : String}

/-! ## Paths -/

/-- The placeholder has its opening brace at its front only, and no slash. -/
theorem exists_tail_placeholder :
    ∃ tail, placeholder.toList = '\x7b' :: tail ∧ '/' ∉ tail :=
  ⟨"BASE_DATA_DIRECTORY\x7d".toList, by decide, by decide⟩

theorem placeholder_ne_nil : placeholder.toList ≠ [] := by
  obtain ⟨tail, shape, _⟩ := exists_tail_placeholder
  exact shape ▸ List.cons_ne_nil _ _

theorem exists_of_isAbsolute (rooted : Path.isAbsolute path = true) :
    ∃ rest, path.toList = '/' :: rest := by
  rw [Path.isAbsolute, decide_eq_true_eq] at rooted
  exact List.head?_eq_some_iff.mp rooted

/-- What a join puts before a path is part of the base, or a slash. -/
theorem exists_front_join (base path : String) :
    ∃ front, (Path.join base path).toList = front ++ path.toList ∧
      ∀ c ∈ front, c ∈ base.toList ∨ c = '/' := by
  unfold Path.join
  split
  · exact ⟨[], rfl, fun _ member => (List.not_mem_nil member).elim⟩
  · split
    · exact ⟨base.toList, String.toList_append, fun _ member => .inl member⟩
    · refine ⟨base.toList ++ ['/'], by simp, ?_⟩
      intro c member
      rcases List.mem_append.mp member with inside | slash
      · exact .inl inside
      · exact .inr (List.mem_singleton.mp slash)

theorem not_infix_resolvePath (rooted : Path.isAbsolute base = true)
    (unbraced : '\x7b' ∉ base.toList) (path : String) :
    ¬ placeholder.toList <:+: (resolvePath base path).toList := by
  obtain ⟨tail, shape, apart⟩ := exists_tail_placeholder
  obtain ⟨rest, baseShape⟩ := exists_of_isAbsolute rooted
  obtain ⟨front, joined, origin⟩ := exists_front_join base
    (String.ofList (Text.substitute placeholder.toList base.toList path.toList))
  have fresh : '\x7b' ∉ front := by
    intro member
    rcases origin _ member with inside | slash
    · exact unbraced inside
    · exact absurd slash (by decide)
  rw [baseShape] at unbraced
  rw [resolvePath, joined, String.toList_ofList, shape, baseShape]
  exact fun found =>
    Text.not_infix_substitute unbraced apart (Text.infix_of_infix_append fresh found)

/-- An absolute path without a placeholder stays as it is. -/
theorem resolvePath_of_absent (rooted : Path.isAbsolute path = true)
    (absent : ¬ placeholder.toList <:+: path.toList) : resolvePath base path = path := by
  rw [resolvePath, Text.substitute_of_absent absent, String.ofList_toList, Path.join, if_pos rooted]

/-- A path with its placeholders filled in is taken as it is if it is absolute, and else put behind
the base directory with one slash between.  So it always becomes absolute.  A base directory without
an opening brace leaves no placeholder, and then a path that is resolved again stays as it is. -/
theorem resolvePath_fills_placeholders (rooted : Path.isAbsolute base = true) (path : String) :
    (∃ filled : String,
      (∀ result, Text.Substituted placeholder.toList base.toList path.toList result ↔
        result = filled.toList) ∧
      resolvePath base path =
        if Path.isAbsolute filled = true then filled
        else if Path.endsWithSlash base = true then base ++ filled
        else base ++ "/" ++ filled) ∧
    Path.isAbsolute (resolvePath base path) = true ∧
    ('\x7b' ∉ base.toList →
      ¬ placeholder.toList <:+: (resolvePath base path).toList ∧
      resolvePath base (resolvePath base path) = resolvePath base path) := by
  have absolute : Path.isAbsolute (resolvePath base path) = true := Path.isAbsolute_join rooted
  refine ⟨⟨String.ofList (Text.substitute placeholder.toList base.toList path.toList), ?_, ?_⟩,
    absolute, ?_⟩
  · intro result
    rw [Text.substituted_iff placeholder_ne_nil, String.toList_ofList]
  · have filled : base ≠ "" := by
      rintro rfl
      cases rooted
    simp only [resolvePath, Path.join, filled, false_or]
  · intro unbraced
    have absent := not_infix_resolvePath rooted unbraced path
    exact ⟨absent, resolvePath_of_absent absolute absent⟩

/-- A placeholder inside the parts of another one. -/
theorem resolvePath_fills_placeholders_split :
    let base := "/srv"
    let path := "\x7bBASE_\x7bBASE_DATA_DIRECTORY\x7dDATA_DIRECTORY\x7d"
    Path.isAbsolute base = true ∧ '\x7b' ∉ base.toList ∧
      resolvePath base path = "/srv/\x7bBASE_/srvDATA_DIRECTORY\x7d" ∧
      ¬ placeholder.toList <:+: (resolvePath base path).toList ∧
      resolvePath base (resolvePath base path) = resolvePath base path := by
  intro base path
  have rooted : Path.isAbsolute base = true := by decide
  have unbraced : '\x7b' ∉ base.toList := by decide
  have resolved : resolvePath base path = "/srv/\x7bBASE_/srvDATA_DIRECTORY\x7d" := by
    decide +kernel
  exact ⟨rooted, unbraced, resolved, (resolvePath_fills_placeholders rooted path).2.2 unbraced⟩

end Settings

end CloudBilling
