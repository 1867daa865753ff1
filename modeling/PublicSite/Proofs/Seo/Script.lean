import PublicSite.Proofs.Json.Texts
import PublicSite.Proofs.Seo.Guarding

/-!
# Values in scripts

A value that stands in a script cannot end the script, and it is read as what it is.  What
opens a comment is not guarded: it stands in the body of a script exactly when it stands in
a text of the value, and behind it a reader of the page may miss the end of the script.
-/

namespace PublicSite.Seo

open PublicSite.Json PublicSite.Markup

/-! ## The end of a script -/

/-- The body of a script holds nothing that ends the script, and it is read as the value that
it was written for whenever the compact text of that value is. -/
theorem parse?_scriptBody (value : Value) :
    ¬ scriptEnd <:+: scriptBody value ∧
      (Value.parse? value.compactText = some value →
        Value.parse? (String.ofList (scriptBody value)) = some value) :=
  ⟨scriptEnd_not_infix_guardClosing value.print, parse?_guardClosing⟩

/-- Signs behind backslashes and quotation marks, in a name and in texts. -/
theorem parse?_scriptBody_hostile :
    let value : Value := .object [
      ("</script>", .array [.text "\\</\"<//</", .null]),
      ("a", .text "<\\/<!--\n")]
    Value.parse? value.compactText = some value ∧ ¬ scriptEnd <:+: scriptBody value ∧
      Value.parse? (String.ofList (scriptBody value)) = some value := by
  intro value
  have parses : Value.parse? value.compactText = some value :=
    Value.parse?_compactText ⟨⟨trivial, trivial, trivial⟩, trivial, trivial⟩
  exact ⟨parses, (parse?_scriptBody value).1, (parse?_scriptBody value).2 parses⟩

/-! ## Comments -/

variable {word : List Char}

/-- A word that holds neither a backslash nor what ends a script begins a guarded text exactly
when it begins the text. -/
theorem prefix_guardClosing_iff (noMark : '\\' ∉ word) (noEnd : ¬ scriptEnd <:+: word)
    (chars : List Char) : word <+: guardClosing chars ↔ word <+: chars := by
  fun_induction guardClosing chars generalizing word with
  | case1 rest ih =>
      cases word with
      | nil => simp
      | cons first behind =>
          cases behind with
          | nil => simp
          | cons second others =>
              simp only [List.cons_prefix_cons]
              constructor
              · rintro ⟨-, rfl, -⟩
                simp at noMark
              · rintro ⟨rfl, rfl, -⟩
                exact absurd (List.prefix_append scriptEnd others).isInfix noEnd
  | case2 char rest notEnd ih =>
      cases word with
      | nil => simp
      | cons first others =>
          rw [List.cons_prefix_cons, List.cons_prefix_cons,
            ih (mt (List.mem_cons_of_mem first) noMark) fun ends => noEnd (List.infix_cons ends)]
  | case3 => rfl

theorem sign_infix_guardClosing_iff (noMark : '\\' ∉ word)
    (noEnd : ¬ scriptEnd <:+: '<' :: word) (chars : List Char) :
    '<' :: word <:+: guardClosing chars ↔ '<' :: word <:+: chars := by
  have begins : ∀ found, '<' :: word <+: guardClosing found ↔ '<' :: word <+: found :=
    prefix_guardClosing_iff (by simpa using noMark) noEnd
  induction chars using guardClosing.induct with
  | case1 rest ih =>
      have later : '<' :: word <:+: guardClosing rest ↔ '<' :: word <:+: rest := ih
      have here := begins ('<' :: '/' :: rest)
      rw [guardClosing] at here ⊢
      rw [List.infix_cons_iff, here, sign_infix_cons_iff (by decide),
        sign_infix_cons_iff (by decide), later, List.infix_cons_iff,
        sign_infix_cons_iff (show '/' ≠ '<' by decide)]
  | case2 char rest notEnd ih =>
      have later : '<' :: word <:+: guardClosing rest ↔ '<' :: word <:+: rest := ih
      have kept : guardClosing (char :: rest) = char :: guardClosing rest := by
        rw [guardClosing]
        exact notEnd
      have here := begins (char :: rest)
      rw [kept] at here ⊢
      rw [List.infix_cons_iff, here, later, List.infix_cons_iff]
  | case3 => rfl

/-- What opens a comment. -/
def commentOpening : List Char := "<!--".toList

/-- A script opens a comment exactly when a text of its value does. -/
theorem commentOpening_infix_scriptBody_iff (value : Value) :
    commentOpening <:+: scriptBody value ↔
      ∃ text ∈ value.texts, commentOpening <:+: text.toList := by
  have unescaped : IsUnescaped ['<', '!', '-', '-'] := by
    simp only [IsUnescaped, List.forall_mem_cons]
    exact ⟨rfl, rfl, rfl, rfl, List.forall_mem_nil _⟩
  have guarded : commentOpening <:+: scriptBody value ↔ commentOpening <:+: value.print :=
    sign_infix_guardClosing_iff (by decide) (by decide) value.print
  exact guarded.trans (Value.sign_infix_print_iff unescaped value)

/-- The name of a business can open a comment. -/
theorem commentOpening_infix_scriptBody_name :
    commentOpening <:+: scriptBody (.object [("name", .text "<!--<script>")]) := by
  decide

end PublicSite.Seo
