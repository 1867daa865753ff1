import PublicSite.Proofs.Path.Sanitize

/-!
# What a reduced text looks like

A text is reduced to a written path, unless it is a bare number sign or a web address
that cannot be read; these two stay as they are.  Reducing it again changes it only when
white space stands at its end: cutting off a query, a fragment or slashes can uncover
some, and the first reduction has trimmed the text before it cut it.
-/

namespace PublicSite.Path

open PublicSite.Text

/-- A path as it is written: a slash first, no sign that ends a path, and no slash at the
end unless it is the only character. -/
structure IsWrittenPath (path : List Char) : Prop where
  rooted : path.head? = some '/'
  noQuery : '?' ∉ path
  noFragment : '#' ∉ path
  ends : path = ['/'] ∨ path.getLast? ≠ some '/'

/-- The normal form, said by characters. -/
theorem IsPathname.isWrittenPath {path : List Char} (pathname : IsPathname path) :
    IsWrittenPath path where
  rooted := by
    obtain ⟨rest, rfl⟩ := pathname.rooted
    rfl
  noQuery := fun member => absurd (pathname.plain _ member) (by decide)
  noFragment := fun member => absurd (pathname.plain _ member) (by decide)
  ends := by
    apply pathname.ends.imp_right
    intro kept isLast
    obtain ⟨front, rfl⟩ := List.getLast?_eq_some_iff.mp isLast
    have noSuffix : ¬ ['/'] <:+ dropEndWhile (· == '/') (front ++ ['/']) :=
      not_suffix_dropEndWhile rfl _
    apply noSuffix
    rw [kept]
    exact List.suffix_append front ['/']

theorem sanitize_eq_sign_iff (path : List Char) :
    sanitize path = ['#'] ↔ trim path = ['#'] := by
  constructor
  · intro reduced
    cases malformed : isMalformedAddress path with
    | true => rwa [sanitize_of_malformed malformed] at reduced
    | false =>
        by_contra noSign
        obtain ⟨rest, rooted⟩ := (isPathname_sanitize noSign malformed).rooted
        rw [reduced] at rooted
        exact absurd (List.cons.inj rooted).1 (by decide)
  · exact sanitize_of_sign

/-- A second reduction changes what ends in white space, and nothing else. -/
theorem sanitize_sanitize_iff (path : List Char) :
    sanitize (sanitize path) = sanitize path ↔ ¬ EndsBlank (sanitize path) := by
  rw [← trimRight_eq_self_iff]
  by_cases sign : trim path = ['#']
  · rw [sanitize_of_sign sign]
    exact iff_of_true (sanitize_of_sign rfl) rfl
  · cases malformed : isMalformedAddress path with
    | true =>
        have again : isMalformedAddress (trim path) = true := by rwa [isMalformedAddress_trim]
        rw [sanitize_of_malformed malformed, sanitize_of_malformed again, trim_trim]
        exact iff_of_true rfl (dropEndWhile_dropEndWhile _ _)
    | false => exact (isPathname_sanitize sign malformed).sanitize_eq_iff

/-- A text is reduced in one of three ways, and which one is told from the text: a bare
number sign and a web address that cannot be read stay as they are, and everything else
becomes a written path.  The result is its own reduction exactly when it does not end in
white space. -/
theorem sanitize_shape (path : List Char) :
    (sanitize path = ['#'] ↔ trim path = ['#']) ∧
      (trim path = ['#'] ∨
        (isMalformedAddress path = true ∧ sanitize path = trim path) ∨
        (isMalformedAddress path = false ∧ IsWrittenPath (sanitize path))) ∧
      (sanitize (sanitize path) = sanitize path ↔ ¬ EndsBlank (sanitize path)) := by
  refine ⟨sanitize_eq_sign_iff path, ?_, sanitize_sanitize_iff path⟩
  by_cases sign : trim path = ['#']
  · exact Or.inl sign
  · apply Or.inr
    cases malformed : isMalformedAddress path with
    | true => exact Or.inl ⟨rfl, sanitize_of_malformed malformed⟩
    | false => exact Or.inr ⟨rfl, (isPathname_sanitize sign malformed).isWrittenPath⟩

/-- Cutting off the query uncovers a space, which a second reduction takes. -/
example : sanitize (sanitize "/events ?month=3".toList) = "/events".toList ∧
    sanitize "/events ?month=3".toList = "/events ".toList := by
  decide

end PublicSite.Path
