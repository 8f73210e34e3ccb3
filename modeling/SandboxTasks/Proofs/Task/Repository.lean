import Mathlib.Data.List.Infix
import Mathlib.Data.List.TakeWhile
import SandboxTasks.Task.Repository

namespace SandboxTasks.Repository

/-- The text is not empty, and neither slashes nor colons are in it. -/
def IsPart (cs : List Char) : Prop := cs ≠ [] ∧ ∀ c ∈ cs, c ≠ '/' ∧ c ≠ ':'

/-- The text is empty or ends in a slash or a colon. -/
def IsFront (cs : List Char) : Prop := ∀ c ∈ cs.getLast?, c = '/' ∨ c = ':'

/-- The text is `.git` any number of times, and then any number of slashes. -/
def IsTail (cs : List Char) : Prop :=
  ∃ suffixes slashes, cs = (List.replicate suffixes ".git".toList).flatten ++ List.replicate slashes '/'

variable {cs part rest owner name tail url : List Char} {c : Char}

theorem dropSuffixes_append (k : Nat) (cs : List Char) :
    dropSuffixes ((List.replicate k "tig.".toList).flatten ++ cs) = dropSuffixes cs := by
  induction k with
  | zero => rfl
  | succ k ih => exact ih

theorem dropSuffixes_eq_self (h : ¬ "tig.".toList <+: cs) : dropSuffixes cs = cs := by
  unfold dropSuffixes
  split
  · next cs =>
      exfalso
      exact h ⟨cs, rfl⟩
  · rfl

theorem exists_dropSuffixes (cs : List Char) :
    (∃ k, cs = (List.replicate k "tig.".toList).flatten ++ dropSuffixes cs) ∧ ¬ "tig.".toList <+: dropSuffixes cs := by
  induction cs using dropSuffixes.induct with
  | case1 cs ih =>
      obtain ⟨⟨k, hk⟩, hrest⟩ := ih
      refine ⟨⟨k + 1, ?_⟩, hrest⟩
      exact congrArg ("tig.".toList ++ ·) hk
  | case2 cs h =>
      have hcs : ¬ "tig.".toList <+: cs := by
        rintro ⟨rest, rfl⟩
        exact h rest rfl
      rw [dropSuffixes_eq_self hcs]
      exact ⟨⟨0, rfl⟩, hcs⟩

theorem reverse_suffixes (k : Nat) :
    (List.replicate k ".git".toList).flatten.reverse = (List.replicate k "tig.".toList).flatten := by
  rw [List.reverse_flatten, List.map_replicate, List.reverse_replicate]
  rfl

theorem reverse_tail (suffixes slashes : Nat) :
    ((List.replicate suffixes ".git".toList).flatten ++ List.replicate slashes '/').reverse =
      List.replicate slashes '/' ++ (List.replicate suffixes "tig.".toList).flatten := by
  rw [List.reverse_append, List.reverse_replicate, reverse_suffixes]

def trimmed (url : List Char) : List Char := (dropSuffixes (url.reverse.dropWhile (· == '/'))).reverse

theorem exists_trimmed (url : List Char) :
    (∃ tail, IsTail tail ∧ url = trimmed url ++ tail) ∧ ¬ ".git".toList <:+ trimmed url := by
  obtain ⟨⟨k, hk⟩, hrest⟩ := exists_dropSuffixes (url.reverse.dropWhile (· == '/'))
  have hslashes : ∃ j, url.reverse.takeWhile (· == '/') = List.replicate j '/' := by
    refine ⟨_, List.eq_replicate_iff.mpr ⟨rfl, fun c hc => ?_⟩⟩
    simpa using List.mem_takeWhile_imp hc
  obtain ⟨j, hj⟩ := hslashes
  refine ⟨⟨_, ⟨k, j, rfl⟩, ?_⟩, fun h => hrest ?_⟩
  · rw [← List.reverse_inj, List.reverse_append, reverse_tail, trimmed, List.reverse_reverse, List.append_assoc, ← hk,
      ← hj]
    exact List.takeWhile_append_dropWhile.symm
  · exact List.reverse_suffix.mp h

theorem trimmed_append (htail : IsTail tail) (hslash : '/' ∉ cs.getLast?) (hsuffix : ¬ ".git".toList <:+ cs) :
    trimmed (cs ++ tail) = cs := by
  obtain ⟨suffixes, slashes, rfl⟩ := htail
  have hstop : (List.replicate suffixes "tig.".toList).flatten ++ cs.reverse =
      ((List.replicate suffixes "tig.".toList).flatten ++ cs.reverse).dropWhile (· == '/') := by
    symm
    cases suffixes with
    | zero =>
        cases hcs : cs.reverse with
        | nil => rfl
        | cons c rest =>
            have hc : c ≠ '/' := by
              rintro rfl
              apply hslash
              rw [← List.head?_reverse, hcs]
              rfl
            exact List.dropWhile_cons_of_neg (by simpa using hc)
    | succ suffixes => rfl
  have hreverse : ¬ "tig.".toList <+: cs.reverse := by
    intro h
    apply hsuffix
    rw [← List.reverse_prefix]
    exact h
  rw [trimmed, List.reverse_append, reverse_tail, List.append_assoc, List.dropWhile_append_of_pos, ← hstop,
    dropSuffixes_append, dropSuffixes_eq_self hreverse, List.reverse_reverse]
  intro c hc
  simpa using List.eq_of_mem_replicate hc

theorem first_part_iff : cs.takeWhile (!isSeparator ·) = part ∧ cs.dropWhile (!isSeparator ·) = rest ↔
    cs = part ++ rest ∧ (∀ c ∈ part, isSeparator c = false) ∧ ∀ c ∈ rest.head?, isSeparator c = true := by
  constructor
  · rintro ⟨rfl, rfl⟩
    refine ⟨List.takeWhile_append_dropWhile.symm, fun c hc => ?_, fun c hc => ?_⟩
    · simpa using List.mem_takeWhile_imp hc
    · have h := List.head?_dropWhile_not (!isSeparator ·) cs
      rw [Option.mem_def.mp hc] at h
      simpa using h
  · rintro ⟨rfl, hpart, hrest⟩
    have hp : ∀ c ∈ part, (!isSeparator c) = true := fun c hc => by rw [hpart c hc]; rfl
    rw [List.takeWhile_append_of_pos hp, List.dropWhile_append_of_pos hp]
    cases rest with
    | nil => simp
    | cons c rest => simp [hrest c rfl]

theorem isSeparator_iff : isSeparator c = true ↔ c = '/' ∨ c = ':' := by
  simp [isSeparator]

theorem isPart_reverse : IsPart cs.reverse ↔ cs ≠ [] ∧ ∀ c ∈ cs, isSeparator c = false := by
  simp [IsPart, isSeparator]

theorem isFront_reverse : IsFront cs.reverse ↔ ∀ c ∈ cs.head?, isSeparator c = true := by
  simp [IsFront, isSeparator]

theorem slugOf?_eq_some_iff : slugOf? url = some (owner, name) ↔ IsPart owner ∧ IsPart name ∧
    ∃ front separator, IsFront front ∧ (separator = '/' ∨ separator = ':') ∧
      trimmed url = front ++ owner ++ separator :: name := by
  have hparts : dropSuffixes (url.reverse.dropWhile (· == '/')) = (trimmed url).reverse :=
    (List.reverse_reverse _).symm
  simp only [slugOf?, hparts]
  constructor
  · intro h
    generalize hlast : (trimmed url).reverse.takeWhile (!isSeparator ·) = last at h
    split at h
    · cases h
    · next separator rest hrest =>
        generalize hfirst : rest.takeWhile (!isSeparator ·) = first at h
        split at h
        · cases h
        · next hempty =>
            cases h
            obtain ⟨front, hfront⟩ : ∃ front, rest.dropWhile (!isSeparator ·) = front := ⟨_, rfl⟩
            obtain ⟨hwhole, hname, hseparator⟩ := first_part_iff.mp ⟨hlast, hrest⟩
            obtain ⟨rfl, howner, hfront⟩ := first_part_iff.mp ⟨hfirst, hfront⟩
            simp only [Bool.or_eq_true, List.isEmpty_iff, not_or] at hempty
            refine ⟨isPart_reverse.mpr ⟨hempty.2, howner⟩, isPart_reverse.mpr ⟨hempty.1, hname⟩, front.reverse,
              separator, isFront_reverse.mpr hfront, isSeparator_iff.mp (hseparator separator rfl), ?_⟩
            rw [← List.reverse_inj, hwhole]
            simp
  · rintro ⟨howner, hname, front, separator, hfront, hseparator, htrimmed⟩
    rw [← owner.reverse_reverse, isPart_reverse] at howner
    rw [← name.reverse_reverse, isPart_reverse] at hname
    rw [← front.reverse_reverse, isFront_reverse] at hfront
    have hwhole : (trimmed url).reverse = name.reverse ++ separator :: (owner.reverse ++ front.reverse) := by
      simp [htrimmed]
    have hhead : ∀ c ∈ (separator :: (owner.reverse ++ front.reverse)).head?, isSeparator c = true := by
      simpa using isSeparator_iff.mpr hseparator
    obtain ⟨hlast, hrest⟩ := first_part_iff.mpr ⟨hwhole, hname.2, hhead⟩
    obtain ⟨hfirst, -⟩ := first_part_iff.mpr ⟨rfl, howner.2, hfront⟩
    simp only [hlast, hrest, hfirst, List.isEmpty_iff, Bool.or_eq_true, hname.1, howner.1, or_self, if_false,
      List.reverse_reverse]

theorem suffix_part {separator : Char} (hseparator : separator = '/' ∨ separator = ':')
    (h : ".git".toList <:+ cs ++ separator :: name) : ".git".toList <:+ name := by
  have hmem : separator ∉ ".git".toList := by
    rcases hseparator with rfl | rfl <;> decide
  rcases List.suffix_or_suffix_of_suffix h (List.suffix_append cs (separator :: name)) with h | h
  · rcases List.suffix_cons_iff.mp h with h | h
    · exact absurd (h ▸ List.mem_cons_self) hmem
    · exact h
  · exact absurd (h.subset List.mem_cons_self) hmem

/-- A URL names a repository exactly if it is spelled with an owner and a name: behind nothing, or behind anything that
ends in a separator, they stand with a separator between them, and only `.git` and slashes follow. The name is told
without any `.git`. -/
theorem slug?_eq_some_iff (r : Repository) (owner name : String) :
    r.slug? = some ⟨owner, name⟩ ↔
      IsPart owner.toList ∧ IsPart name.toList ∧ ¬ ".git".toList <:+ name.toList ∧
        ∃ front separator tail, IsFront front ∧ (separator = '/' ∨ separator = ':') ∧ IsTail tail ∧
          r.url.toList = front ++ owner.toList ++ separator :: name.toList ++ tail := by
  have hslug : r.slug? = some ⟨owner, name⟩ ↔ slugOf? r.url.toList = some (owner.toList, name.toList) := by
    simp only [slug?, Option.map_eq_some_iff, Slug.mk.injEq, Prod.exists]
    constructor
    · rintro ⟨_, _, h, rfl, rfl⟩
      simpa using h
    · intro h
      exact ⟨_, _, h, String.ofList_toList, String.ofList_toList⟩
  rw [hslug, slugOf?_eq_some_iff]
  obtain ⟨⟨tail, htail, hurl⟩, hsuffix⟩ := exists_trimmed r.url.toList
  constructor
  · rintro ⟨howner, hname, front, separator, hfront, hseparator, htrimmed⟩
    rw [htrimmed] at hurl hsuffix
    refine ⟨howner, hname, fun h => hsuffix ?_, front, separator, tail, hfront, hseparator, htail, hurl⟩
    exact List.suffix_append_of_suffix (h.trans (List.suffix_cons separator _))
  · rintro ⟨howner, hname, hgit, front, separator, tail, hfront, hseparator, htail, hurl⟩
    refine ⟨howner, hname, front, separator, hfront, hseparator, ?_⟩
    rw [hurl]
    apply trimmed_append htail
    · intro h
      obtain ⟨c, hc⟩ := Option.isSome_iff_exists.mp (List.getLast?_isSome.mpr hname.1)
      rw [List.getLast?_append, List.getLast?_cons, hc] at h
      cases h
      exact (hname.2 _ (List.mem_of_getLast? hc)).1 rfl
    · intro h
      exact hgit (suffix_part hseparator h)

example : (⟨"git@github.com:acme/app.git.git//", "main"⟩ : Repository).slug? = some ⟨"acme", "app"⟩ := by decide

end SandboxTasks.Repository
