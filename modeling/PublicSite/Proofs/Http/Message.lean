import PublicSite.Http.Message
import PublicSite.Proofs.Path.Shape

/-!
# The path of a request

A target that is only a path is the path that is asked for.  Of every other target
the path is a part that holds neither its query nor its fragment.
-/

namespace PublicSite.Http

open PublicSite.Text

namespace Request

/-- A target that is only a path is the path that is asked for. -/
theorem path_eq_target {request : Request} (rooted : request.target.toList.head? = some '/')
    (noSign : '#' ∉ request.target.toList) (noQuestionMark : '?' ∉ request.target.toList) :
    request.path = request.target.toList := by
  have resource_eq : request.resource = request.target.toList := by
    simp [resource, before_of_no_separator (beq_eq_false_of_not_mem noSign), rooted]
  rw [path, resource_eq, before_of_no_separator (beq_eq_false_of_not_mem noQuestionMark)]
  split
  · rename_i empty
    simp [empty] at rooted
  · rfl

theorem afterScheme?_isSuffix {chars address : List Char}
    (found : afterScheme? chars = some address) : address <:+ chars := by
  fun_induction afterScheme? chars with
  | case1 rest =>
      rw [← Option.some.inj found]
      exact ⟨"://".toList, rfl⟩
  | case2 first rest _ ih => exact (ih found).trans (List.suffix_cons first rest)
  | case3 => exact nomatch found

theorem resource_isSuffix (request : Request) :
    request.resource <:+ before (· == '#') request.target.toList := by
  unfold resource
  dsimp only
  split
  · exact List.suffix_rfl
  · split
    · exact List.suffix_rfl
    · rename_i address found
      exact (List.dropWhile_suffix _).trans (afterScheme?_isSuffix found)

/-- The path of a request holds neither a query nor a fragment. -/
theorem endsPathname_path (request : Request) :
    ∀ char ∈ request.path, Path.endsPathname char = false := by
  unfold path
  split
  · simp [Path.endsPathname]
  · intro char member
    have noQuery : (char == '?') = false := separates_eq_false_of_mem_before char member
    have inResource : char ∈ request.resource := (before_isPrefix _ _).subset member
    have noFragment : (char == '#') = false :=
      separates_eq_false_of_mem_before char ((resource_isSuffix request).subset inResource)
    rw [Path.endsPathname, noQuery, noFragment]
    rfl

end Request

end PublicSite.Http
