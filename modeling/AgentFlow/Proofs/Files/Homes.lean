import AgentFlow.Proofs.Files.Path
import AgentFlow.Proofs.Result

/-!
# Home directories

A leading `~` is replaced once: where the directories of all users are absolute, a path in which
it was replaced is left alone from then on.
-/

namespace AgentFlow

open AgentFlow.Text

namespace Homes

variable {homes : Homes} {path expanded : Path}

/-- The directories of all users are absolute. -/
structure Rooted (homes : Homes) : Prop where
  own : homes.own.toList.head? = some '/'
  others : ∀ user ∈ homes.others, user.2.toList.head? = some '/'

theorem directory?_rooted (rooted : homes.Rooted) {user : List Char} {home : String}
    (found : homes.directory? user = .ok home) : home.toList.head? = some '/' := by
  unfold directory? at found
  split at found
  · cases found
    exact rooted.own
  · split at found
    · cases found
    · dsimp only at found
      split at found
      · rename_i listed
        cases found
        obtain ⟨before, after, whole, _⟩ := List.lookup_eq_some_iff.mp listed
        exact rooted.others _ (whole ▸ List.mem_append_right before List.mem_cons_self)
      · cases found

theorem leadingSlashes_ne_zero {cs : List Char} (first : cs.head? = some '/') :
    Path.leadingSlashes cs ≠ 0 := by
  obtain ⟨rest, whole⟩ := List.head?_eq_some_iff.mp first
  subst whole
  have counted : ((('/' :: rest).takeWhile (· == '/')).length) =
      (rest.takeWhile (· == '/')).length + 1 := rfl
  unfold Path.leadingSlashes
  dsimp only
  rw [counted]
  split <;> omega

theorem slashes_ofText (s : String) : (Path.ofText s).slashes = Path.leadingSlashes s.toList := rfl

theorem head?_withoutTrailingSlashes {home : String} (first : home.toList.head? = some '/')
    (notAll : home.toList.all (· == '/') = false) :
    (withoutTrailingSlashes home).toList.head? = some '/' := by
  have isPrefix := List.rdropWhile_prefix (· == '/') home.toList
  have kept : home.toList.rdropWhile (· == '/') ≠ [] := by
    intro empty
    rw [List.rdropWhile_eq_nil_iff] at empty
    rw [List.all_eq_true.mpr empty] at notAll
    cases notAll
  obtain ⟨dropped, whole⟩ := isPrefix
  rw [withoutTrailingSlashes, String.toList_ofList]
  change (home.toList.rdropWhile (· == '/')).head? = some '/'
  rw [← whole, List.head?_append_of_ne_nil _ kept] at first
  exact first

/-- What a path is with its leading `~` replaced. -/
theorem expand_cases (expands : homes.expand path = .ok expanded) :
    expanded = path ∨ ∃ user home rest, homes.directory? user = .ok home ∧
      (∃ first, path.parts = first :: rest) ∧
      expanded = ⟨if home.toList.all (· == '/') then 1
        else (Path.ofText (withoutTrailingSlashes home)).slashes,
          (Path.ofText (withoutTrailingSlashes home)).parts ++ rest⟩ := by
  unfold expand at expands
  split at expands
  · rename_i first rest _ parts
    split at expands
    · rename_i user _
      obtain ⟨home, found, same⟩ := map_eq_ok_iff.mp expands
      exact .inr ⟨user, home, rest, found, ⟨first, parts⟩, same.symm⟩
    · cases expands
      exact .inl rfl
  · cases expands
    exact .inl rfl

theorem expand_absolute (absolute : path.slashes ≠ 0) : homes.expand path = .ok path := by
  unfold expand
  split
  · rename_i relative _
    exact absurd relative absolute
  · rfl

/-- A path is expanded only once. -/
theorem expand_expand (rooted : homes.Rooted) (expands : homes.expand path = .ok expanded) :
    homes.expand expanded = .ok expanded := by
  rcases expand_cases expands with same | ⟨user, home, rest, found, _, same⟩
  · rw [same] at expands ⊢
    exact expands
  · refine expand_absolute ?_
    rw [same]
    dsimp only
    split
    · exact Nat.one_ne_zero
    · rename_i notAll
      rw [slashes_ofText]
      exact leadingSlashes_ne_zero (head?_withoutTrailingSlashes (directory?_rooted rooted found)
        (Bool.eq_false_iff.mpr notAll))

theorem isSpelled_expand (spelled : path.IsSpelled) (expands : homes.expand path = .ok expanded) :
    expanded.IsSpelled := by
  rcases expand_cases expands with same | ⟨user, home, rest, _, ⟨first, parts⟩, same⟩
  · exact same ▸ spelled
  · have start := Path.isSpelled_ofText (withoutTrailingSlashes home)
    rw [same]
    refine ⟨?_, fun part member => ?_⟩
    · dsimp only
      split
      · omega
      · exact start.slashes
    · rcases List.mem_append.mp member with before | after
      · exact start.names part before
      · exact spelled.names part (parts ▸ List.mem_cons_of_mem first after)

end Homes

end AgentFlow
