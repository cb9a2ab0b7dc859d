/-!
# Splitting text at a character

`split` cuts a text at every occurrence of a separator and `join` puts the
pieces back together; they are inverse to each other on pieces free of the
separator (`join_split`, `split_join`), there is one more piece than there are
separators (`length_split`), and joining adds no other character (`mem_join`).
`cut?` and `cutLast?` cut once, at the first and at the last occurrence;
`cut?_eq_some_iff` and `cutLast?_eq_some_iff` say where.
-/

namespace Audience.Text

/-- The pieces of a text between the occurrences of `sep`. -/
def split (sep : Char) : List Char → List (List Char)
  | [] => [[]]
  | c :: cs =>
    if c = sep then [] :: split sep cs
    else match split sep cs with
      | [] => [[c]]
      | piece :: pieces => (c :: piece) :: pieces

/-- The pieces with `sep` between them. -/
def join (sep : Char) : List (List Char) → List Char
  | [] => []
  | [piece] => piece
  | piece :: pieces => piece ++ sep :: join sep pieces

theorem split_ne_nil (sep : Char) (cs : List Char) : split sep cs ≠ [] := by
  cases cs with
  | nil => simp [split]
  | cons c cs =>
    rw [split]
    split
    · simp
    · split <;> simp

theorem split_cons_self (sep : Char) (cs : List Char) :
    split sep (sep :: cs) = [] :: split sep cs := by
  simp [split]

theorem split_cons_of_ne {sep c : Char} (h : c ≠ sep) (cs : List Char) :
    ∃ piece pieces, split sep cs = piece :: pieces ∧
      split sep (c :: cs) = (c :: piece) :: pieces := by
  cases hs : split sep cs with
  | nil => exact absurd hs (split_ne_nil sep cs)
  | cons piece pieces => exact ⟨piece, pieces, rfl, by simp [split, h, hs]⟩

theorem join_cons_cons (sep : Char) (c : Char) (piece : List Char) (pieces : List (List Char)) :
    join sep ((c :: piece) :: pieces) = c :: join sep (piece :: pieces) := by
  cases pieces <;> simp [join]

theorem join_cons (sep : Char) (piece : List Char) {pieces : List (List Char)} (h : pieces ≠ []) :
    join sep (piece :: pieces) = piece ++ sep :: join sep pieces := by
  cases pieces with
  | nil => exact absurd rfl h
  | cons => rfl

theorem join_nil_cons {sep : Char} {pieces : List (List Char)} (h : pieces ≠ []) :
    join sep ([] :: pieces) = sep :: join sep pieces :=
  join_cons sep [] h

theorem join_eq_intercalate (sep : Char) (pieces : List (List Char)) :
    join sep pieces = [sep].intercalate pieces := by
  induction pieces with
  | nil => rfl
  | cons piece pieces ih =>
    cases pieces with
    | nil => simp [join, List.intercalate]
    | cons next rest => simpa [join, List.intercalate] using ih

theorem join_split (sep : Char) (cs : List Char) : join sep (split sep cs) = cs := by
  induction cs with
  | nil => rfl
  | cons c cs ih =>
    by_cases h : c = sep
    · rw [h, split_cons_self, join_nil_cons (split_ne_nil sep cs), ih]
    · obtain ⟨piece, pieces, hs, hc⟩ := split_cons_of_ne h cs
      rw [hc, join_cons_cons, ← hs, ih]

theorem join_append (sep : Char) {xs ys : List (List Char)} (hx : xs ≠ []) (hy : ys ≠ []) :
    join sep (xs ++ ys) = join sep xs ++ sep :: join sep ys := by
  induction xs with
  | nil => exact absurd rfl hx
  | cons x xs ih =>
    by_cases hxs : xs = []
    · rw [hxs]
      exact join_cons sep x hy
    · rw [List.cons_append, join_cons sep x (List.append_ne_nil_of_left_ne_nil hxs ys), ih hxs,
        join_cons sep x hxs, List.append_assoc, List.cons_append]

/-- Joining adds no character but the separator. -/
theorem mem_join {sep c : Char} (h : c ≠ sep) {pieces : List (List Char)} :
    c ∈ join sep pieces ↔ ∃ piece ∈ pieces, c ∈ piece := by
  induction pieces with
  | nil => simp [join]
  | cons piece pieces ih =>
    by_cases hpieces : pieces = []
    · simp [hpieces, join]
    · rw [join_cons sep piece hpieces, List.mem_append, List.mem_cons, ih]
      simp [h]

theorem length_split (sep : Char) (cs : List Char) :
    (split sep cs).length = cs.count sep + 1 := by
  induction cs with
  | nil => rfl
  | cons c cs ih =>
    by_cases h : c = sep
    · rw [h, split_cons_self]; simp [ih]
    · obtain ⟨piece, pieces, hs, hc⟩ := split_cons_of_ne h cs
      rw [hc, List.count_cons_of_ne h, ← ih, hs]; rfl

theorem notMem_of_mem_split {sep : Char} {cs piece : List Char} (hp : piece ∈ split sep cs) :
    sep ∉ piece := by
  induction cs generalizing piece with
  | nil => simp [split] at hp; simp [hp]
  | cons c cs ih =>
    by_cases h : c = sep
    · rw [h, split_cons_self] at hp
      rcases List.mem_cons.1 hp with rfl | hp
      · simp
      · exact ih hp
    · obtain ⟨first, pieces, hs, hc⟩ := split_cons_of_ne h cs
      rw [hc] at hp
      rcases List.mem_cons.1 hp with rfl | hp
      · have := @ih first (by simp [hs])
        simp [Ne.symm h, this]
      · exact ih (by simp [hs, hp])

theorem split_of_notMem {sep : Char} {cs : List Char} (h : sep ∉ cs) : split sep cs = [cs] := by
  induction cs with
  | nil => rfl
  | cons c cs ih =>
    obtain ⟨hne, hcs⟩ := by simpa using h
    simp [split, Ne.symm hne, ih hcs]

theorem split_append_cons {sep : Char} {piece : List Char} (h : sep ∉ piece) (cs : List Char) :
    split sep (piece ++ sep :: cs) = piece :: split sep cs := by
  induction piece with
  | nil => exact split_cons_self sep cs
  | cons c piece ih =>
    obtain ⟨hne, hp⟩ := by simpa using h
    simp [split, Ne.symm hne, ih hp]

theorem split_join {sep : Char} {pieces : List (List Char)} (hne : pieces ≠ [])
    (h : ∀ piece ∈ pieces, sep ∉ piece) : split sep (join sep pieces) = pieces := by
  induction pieces with
  | nil => exact absurd rfl hne
  | cons piece pieces ih =>
    cases pieces with
    | nil => exact split_of_notMem (h piece (by simp))
    | cons next rest =>
      rw [join, split_append_cons (h piece (by simp)),
        ih (by simp) (fun q hq => h q (by simp [hq]))]
      simp

/-- The pieces of two texts with the separator between them. -/
theorem split_append (sep : Char) (a b : List Char) :
    split sep (a ++ sep :: b) = split sep a ++ split sep b := by
  have hjoin : join sep (split sep a ++ split sep b) = a ++ sep :: b := by
    rw [join_append sep (split_ne_nil sep a) (split_ne_nil sep b), join_split, join_split]
  rw [← hjoin, split_join (List.append_ne_nil_of_left_ne_nil (split_ne_nil sep a) _)]
  exact List.forall_mem_append.2
    ⟨fun _ => notMem_of_mem_split, fun _ => notMem_of_mem_split⟩

/-- What stands before and after the first occurrence of `sep`. -/
def cut? (sep : Char) : List Char → Option (List Char × List Char)
  | [] => none
  | c :: cs => if c = sep then some ([], cs) else (cut? sep cs).map fun (a, b) => (c :: a, b)

/-- What stands before and after the last occurrence of `sep`. -/
def cutLast? (sep : Char) (cs : List Char) : Option (List Char × List Char) :=
  (cut? sep cs.reverse).map fun (b, a) => (a.reverse, b.reverse)

theorem cut?_eq_none_iff {sep : Char} {cs : List Char} : cut? sep cs = none ↔ sep ∉ cs := by
  induction cs with
  | nil => simp [cut?]
  | cons c cs ih =>
    by_cases h : c = sep
    · simp [cut?, h]
    · simp [cut?, h, ih, Ne.symm h]

theorem cut?_eq_some_iff {sep : Char} {cs a b : List Char} :
    cut? sep cs = some (a, b) ↔ cs = a ++ sep :: b ∧ sep ∉ a := by
  induction cs generalizing a with
  | nil => simp [cut?]
  | cons c cs ih =>
    by_cases h : c = sep
    · subst h
      cases a with
      | nil => simp [cut?]
      | cons x a => simp [cut?]; rintro rfl - ; simp
    · cases a with
      | nil => simp [cut?, h]
      | cons x a =>
        have h' : sep ≠ c := fun e => h e.symm
        simp only [cut?, h, if_false, Option.map_eq_some_iff, Prod.exists, Prod.mk.injEq,
          List.cons.injEq, List.cons_append, List.mem_cons, not_or]
        constructor
        · rintro ⟨a', b', hc, ⟨rfl, rfl⟩, rfl⟩
          obtain ⟨hcs, ha⟩ := ih.1 hc
          exact ⟨⟨rfl, hcs⟩, h', ha⟩
        · rintro ⟨⟨rfl, hcs⟩, -, ha⟩
          exact ⟨a, b, ih.2 ⟨hcs, ha⟩, ⟨rfl, rfl⟩, rfl⟩

theorem cutLast?_eq_none_iff {sep : Char} {cs : List Char} :
    cutLast? sep cs = none ↔ sep ∉ cs := by
  simp [cutLast?, cut?_eq_none_iff]

theorem cutLast?_eq_some_iff {sep : Char} {cs a b : List Char} :
    cutLast? sep cs = some (a, b) ↔ cs = a ++ sep :: b ∧ sep ∉ b := by
  simp only [cutLast?, Option.map_eq_some_iff, Prod.exists, Prod.mk.injEq]
  constructor
  · rintro ⟨b', a', hc, rfl, rfl⟩
    obtain ⟨hcs, hb⟩ := cut?_eq_some_iff.1 hc
    have := congrArg List.reverse hcs
    exact ⟨by simpa using this, by simpa using hb⟩
  · rintro ⟨rfl, hb⟩
    exact ⟨b.reverse, a.reverse, cut?_eq_some_iff.2 ⟨by simp, by simpa using hb⟩, by simp, by simp⟩

end Audience.Text
