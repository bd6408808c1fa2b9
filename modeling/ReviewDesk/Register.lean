-- Records in a fixed order, each under a key of its own. At most one record has a key,
-- and the records stand in the order of their keys.

namespace ReviewDesk

/-- Records in ascending order of their keys. -/
structure Register {κ α : Type} [Ord κ] (key : α → κ) where
  entries : List α
  sorted : entries.Pairwise fun a b => compare (key a) (key b) = .lt

namespace Register

variable {κ α : Type} [Ord κ] {key : α → κ}

/-- Two registers with the same records are the same. -/
theorem ext {r s : Register key} (h : r.entries = s.entries) : r = s := by
  cases r; cases s; cases h; rfl

instance [DecidableEq α] : DecidableEq (Register key) := fun r s =>
  if h : r.entries = s.entries then isTrue (ext h) else isFalse fun e => h (e ▸ rfl)

def empty : Register key := ⟨[], .nil⟩

instance : Inhabited (Register key) := ⟨empty⟩

/-- The record under a key. -/
def get? [DecidableEq κ] (r : Register key) (k : κ) : Option α :=
  r.entries.find? fun a => key a = k

/-! ## Putting a record in -/

/-- Puts a record at its place in a list, over the record that has the same key. -/
def place (key : α → κ) (a : α) : List α → List α
  | [] => [a]
  | b :: rest =>
    match compare (key a) (key b) with
    | .lt => a :: b :: rest
    | .eq => a :: rest
    | .gt => b :: place key a rest

theorem mem_place {a b : α} {l : List α} (h : b ∈ place key a l) : b = a ∨ b ∈ l := by
  induction l with
  | nil => simpa [place] using h
  | cons c l ih =>
    simp only [place] at h
    split at h
    · simpa using h
    · simp only [List.mem_cons] at h
      rcases h with h | h
      · exact .inl h
      · exact .inr (List.mem_cons_of_mem _ h)
    · simp only [List.mem_cons] at h
      rcases h with h | h
      · exact .inr (h ▸ List.mem_cons_self)
      · exact (ih h).imp id (List.mem_cons_of_mem _)

theorem sorted_place [Std.TransOrd κ] [Std.LawfulEqOrd κ] (a : α) {l : List α}
    (h : l.Pairwise fun a b => compare (key a) (key b) = .lt) :
    (place key a l).Pairwise fun a b => compare (key a) (key b) = .lt := by
  induction l with
  | nil => simp [place]
  | cons b l ih =>
    rw [List.pairwise_cons] at h
    obtain ⟨hb, hl⟩ := h
    simp only [place]
    split
    · rename_i hab
      refine List.pairwise_cons.2 ⟨fun c hc => ?_, List.pairwise_cons.2 ⟨hb, hl⟩⟩
      rcases List.mem_cons.1 hc with rfl | hc
      · exact hab
      · exact Std.TransCmp.lt_trans hab (hb c hc)
    · rename_i hab
      have e := Std.LawfulEqOrd.eq_of_compare hab
      exact List.pairwise_cons.2 ⟨fun c hc => e ▸ hb c hc, hl⟩
    · rename_i hab
      refine List.pairwise_cons.2 ⟨fun c hc => ?_, ih hl⟩
      rcases mem_place hc with rfl | hc
      · exact Std.OrientedCmp.lt_of_gt hab
      · exact hb c hc

/-- Puts a record in, over the one that has the same key. -/
def put [Std.TransOrd κ] [Std.LawfulEqOrd κ] (r : Register key) (a : α) : Register key :=
  ⟨place key a r.entries, sorted_place a r.sorted⟩

/-- Puts each record of a list in. A later one goes over an earlier one with its key. -/
def ofList [Std.TransOrd κ] [Std.LawfulEqOrd κ] (l : List α) : Register key :=
  l.foldl put empty

/-! ## Taking a record out -/

/-- Takes the record under a key out. -/
def remove [DecidableEq κ] (r : Register key) (k : κ) : Register key :=
  ⟨r.entries.filter fun a => key a ≠ k, r.sorted.sublist List.filter_sublist⟩

/-! ## Changing every record -/

/-- Changes each record without changing its key. -/
def map (r : Register key) (f : α → α) (h : ∀ a, key (f a) = key a) : Register key :=
  ⟨r.entries.map f, by
    rw [List.pairwise_map]
    exact r.sorted.imp fun {a b} hab => by rw [h a, h b]; exact hab⟩

end Register

/-! ## Values under keys -/

/-- Values that stand beside their keys. -/
abbrev Keyed (κ α : Type) [Ord κ] := Register (Prod.fst : κ × α → κ)

namespace Register

variable {κ α : Type} [Ord κ] [DecidableEq κ] [Inhabited α]

/-- The value under a key. Where nothing stands under it, that is the default. -/
def value (r : Keyed κ α) (k : κ) : α := ((r.get? k).map Prod.snd).getD default

/-- Changes the value under a key. -/
def change [Std.TransOrd κ] [Std.LawfulEqOrd κ] (r : Keyed κ α) (k : κ) (f : α → α) : Keyed κ α :=
  r.put (k, f (r.value k))

end Register

end ReviewDesk
