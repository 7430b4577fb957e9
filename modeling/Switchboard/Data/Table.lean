/-!
# Tables in key order

A finite map as a list of entries in ascending order of their keys, so that two tables with the same
lookups are equal (`Table.ext`). Keys are compared by their rank, an integer that no two keys share.
-/

namespace Switchboard

/-- Keys with a place in an order. -/
class Ranked (κ : Type) where
  rank : κ → Int
  rank_inj : ∀ {a b : κ}, rank a = rank b → a = b

export Ranked (rank rank_inj)

instance : Ranked Int := ⟨id, id⟩

instance : Ranked Nat := ⟨Int.ofNat, Int.ofNat.inj⟩

instance : Ranked UInt32 where
  rank k := k.toNat
  rank_inj h := UInt32.toNat_inj.mp (Int.ofNat.inj h)

/-- A finite map from ranked keys. -/
structure Table (κ α : Type) [Ranked κ] where
  /-- The entries, least key first. -/
  entries : List (κ × α)
  ascending : entries.Pairwise fun a b => rank a.1 < rank b.1

namespace Table

variable {κ α : Type} [Ranked κ]

def find? (k : κ) : List (κ × α) → Option α
  | [] => none
  | e :: rest => if rank e.1 = rank k then some e.2 else find? k rest

/-- Puts an entry in its place, over an entry with the same key. -/
def place (k : κ) (a : α) : List (κ × α) → List (κ × α)
  | [] => [(k, a)]
  | e :: rest =>
    if rank k < rank e.1 then (k, a) :: e :: rest
    else if rank e.1 = rank k then (k, a) :: rest
    else e :: place k a rest

theorem mem_place {k : κ} {a : α} {l : List (κ × α)} {e : κ × α} (h : e ∈ place k a l) :
    e = (k, a) ∨ e ∈ l := by
  induction l with
  | nil => simpa [place] using h
  | cons b rest ih =>
    simp only [place] at h
    split at h
    · simpa using h
    · split at h
      · rcases List.mem_cons.1 h with h | h
        · exact .inl h
        · exact .inr (List.mem_cons_of_mem _ h)
      · rcases List.mem_cons.1 h with h | h
        · exact .inr (by simp [h])
        · exact (ih h).imp_right (List.mem_cons_of_mem _)

theorem ascending_place {k : κ} {a : α} {l : List (κ × α)}
    (h : l.Pairwise fun a b => rank a.1 < rank b.1) :
    (place k a l).Pairwise fun a b => rank a.1 < rank b.1 := by
  induction l with
  | nil => simp [place]
  | cons b rest ih =>
    obtain ⟨hb, hrest⟩ := List.pairwise_cons.1 h
    simp only [place]
    split
    · rename_i hlt
      refine List.pairwise_cons.2 ⟨?_, h⟩
      intro e he
      rcases List.mem_cons.1 he with rfl | he
      · exact hlt
      · exact Int.lt_trans hlt (hb e he)
    · split
      · rename_i heq
        exact List.pairwise_cons.2 ⟨fun e he => heq ▸ hb e he, hrest⟩
      · refine List.pairwise_cons.2 ⟨?_, ih hrest⟩
        intro e he
        rcases mem_place he with rfl | he
        · dsimp only; omega
        · exact hb e he

def empty : Table κ α := ⟨[], .nil⟩

instance : Inhabited (Table κ α) := ⟨empty⟩

def get? (t : Table κ α) (k : κ) : Option α :=
  find? k t.entries

def contains (t : Table κ α) (k : κ) : Bool :=
  (t.get? k).isSome

def insert (t : Table κ α) (k : κ) (a : α) : Table κ α :=
  ⟨place k a t.entries, ascending_place t.ascending⟩

def filter (t : Table κ α) (p : κ → α → Bool) : Table κ α :=
  ⟨t.entries.filter fun e => p e.1 e.2, t.ascending.filter _⟩

def erase (t : Table κ α) (k : κ) : Table κ α :=
  t.filter fun k' _ => decide (rank k' ≠ rank k)

def map {β : Type} (t : Table κ α) (f : κ → α → β) : Table κ β :=
  ⟨t.entries.map fun e => (e.1, f e.1 e.2), by
    simpa only [List.pairwise_map] using t.ascending⟩

/-- The table with one key's value replaced, if it has one. -/
def modify (t : Table κ α) (k : κ) (f : α → α) : Table κ α :=
  t.map fun k' a => if rank k = rank k' then f a else a

def keys (t : Table κ α) : List κ :=
  t.entries.map (·.1)

def values (t : Table κ α) : List α :=
  t.entries.map (·.2)

def size (t : Table κ α) : Nat :=
  t.entries.length

theorem find?_eq_some_iff {k : κ} {a : α} {l : List (κ × α)}
    (h : l.Pairwise fun a b => rank a.1 < rank b.1) : find? k l = some a ↔ (k, a) ∈ l := by
  induction l with
  | nil => simp [find?]
  | cons b rest ih =>
    obtain ⟨hb, hrest⟩ := List.pairwise_cons.1 h
    simp only [find?, List.mem_cons]
    split
    · rename_i heq
      obtain rfl := rank_inj heq
      constructor
      · rintro ⟨⟩; exact .inl rfl
      · rintro (he | hm)
        · rw [← he]
        · exact absurd (hb _ hm) (Int.lt_irrefl _)
    · rename_i hne
      rw [ih hrest]
      exact ⟨.inr, fun hm => hm.resolve_left fun he => hne (by rw [← he])⟩

theorem get?_eq_some_iff {t : Table κ α} {k : κ} {a : α} :
    t.get? k = some a ↔ (k, a) ∈ t.entries :=
  find?_eq_some_iff t.ascending

/-- The first entry with a property is the one with the least key. -/
theorem entries_find?_eq_some_iff {t : Table κ α} {p : κ × α → Bool} {k : κ} {a : α} :
    t.entries.find? p = some (k, a) ↔ t.get? k = some a ∧ p (k, a) = true ∧
      ∀ k' a', t.get? k' = some a' → p (k', a') = true → rank k ≤ rank k' := by
  simp only [get?_eq_some_iff]
  have hasc := t.ascending
  generalize t.entries = l at hasc ⊢
  induction l with
  | nil => simp
  | cons b rest ih =>
    obtain ⟨hb, hrest⟩ := List.pairwise_cons.1 hasc
    cases hp : p b with
    | true =>
      rw [List.find?_cons_of_pos hp]
      constructor
      · rintro ⟨⟩
        refine ⟨List.mem_cons_self .., hp, fun k' a' hm _ => ?_⟩
        rcases List.mem_cons.1 hm with he | hm
        · cases he
          exact Int.le_refl _
        · exact Int.le_of_lt (hb _ hm)
      · rintro ⟨hm, -, hleast⟩
        rcases List.mem_cons.1 hm with he | hm
        · rw [he]
        · have hle := hleast b.1 b.2 (List.mem_cons_self ..) hp
          exact absurd (hb _ hm) (Int.not_lt.2 hle)
    | false =>
      rw [List.find?_cons_of_neg (by simp [hp])]
      refine (ih hrest).trans ?_
      constructor
      · rintro ⟨hm, hk, hleast⟩
        refine ⟨List.mem_cons_of_mem _ hm, hk, fun k' a' hm' hk' => ?_⟩
        rcases List.mem_cons.1 hm' with he | hm'
        · cases (he ▸ hk').symm.trans hp
        · exact hleast k' a' hm' hk'
      · rintro ⟨hm, hk, hleast⟩
        rcases List.mem_cons.1 hm with he | hm
        · cases (he ▸ hk).symm.trans hp
        · exact ⟨hm, hk, fun k' a' hm' => hleast k' a' (List.mem_cons_of_mem _ hm')⟩

theorem entries_find?_eq_none_iff {t : Table κ α} {p : κ × α → Bool} :
    t.entries.find? p = none ↔ ∀ k a, t.get? k = some a → p (k, a) = false := by
  simp only [List.find?_eq_none, Bool.not_eq_true, Prod.forall, get?_eq_some_iff]

theorem find?_place {k k' : κ} {a : α} {l : List (κ × α)}
    (h : l.Pairwise fun a b => rank a.1 < rank b.1) :
    find? k' (place k a l) = if rank k = rank k' then some a else find? k' l := by
  induction l with
  | nil => simp [place, find?]
  | cons b rest ih =>
    obtain ⟨hb, hrest⟩ := List.pairwise_cons.1 h
    simp only [place]
    split
    · simp [find?]
    · split
      · rename_i heq
        simp only [find?, heq]
        split <;> simp_all
      · simp only [find?, ih hrest]
        split <;> split <;> simp_all

@[simp] theorem get?_empty {k : κ} : (empty : Table κ α).get? k = none := rfl

theorem get?_insert {t : Table κ α} {k k' : κ} {a : α} :
    (t.insert k a).get? k' = if rank k = rank k' then some a else t.get? k' :=
  find?_place t.ascending

@[simp] theorem get?_insert_self {t : Table κ α} {k : κ} {a : α} :
    (t.insert k a).get? k = some a := by
  simp [get?_insert]

theorem get?_insert_of_ne {t : Table κ α} {k k' : κ} {a : α} (h : k ≠ k') :
    (t.insert k a).get? k' = t.get? k' := by
  rw [get?_insert, if_neg fun hr => h (rank_inj hr)]

theorem find?_filter {k : κ} {p : κ → α → Bool} {l : List (κ × α)}
    (h : l.Pairwise fun a b => rank a.1 < rank b.1) :
    find? k (l.filter fun e => p e.1 e.2) = (find? k l).filter (p k) := by
  apply Option.ext
  intro a
  rw [find?_eq_some_iff (h.filter _), List.mem_filter, Option.filter_eq_some_iff,
    find?_eq_some_iff h]

theorem get?_filter {t : Table κ α} {p : κ → α → Bool} {k : κ} :
    (t.filter p).get? k = (t.get? k).filter (p k) :=
  find?_filter t.ascending

theorem get?_erase {t : Table κ α} {k k' : κ} :
    (t.erase k).get? k' = if rank k = rank k' then none else t.get? k' := by
  simp only [erase, get?_filter]
  split
  · rename_i h
    cases t.get? k' <;> simp [Option.filter, h]
  · rename_i h
    have h : rank k' ≠ rank k := fun h' => h h'.symm
    cases t.get? k' <;> simp [Option.filter, h]

@[simp] theorem get?_erase_self {t : Table κ α} {k : κ} : (t.erase k).get? k = none := by
  simp [get?_erase]

theorem get?_erase_of_ne {t : Table κ α} {k k' : κ} (h : k ≠ k') :
    (t.erase k).get? k' = t.get? k' := by
  rw [get?_erase, if_neg fun hr => h (rank_inj hr)]

theorem find?_map {β : Type} {k : κ} {f : κ → α → β} {l : List (κ × α)} :
    find? k (l.map fun e => (e.1, f e.1 e.2)) = (find? k l).map (f k) := by
  induction l with
  | nil => rfl
  | cons b rest ih =>
    simp only [List.map_cons, find?]
    split
    · rename_i heq
      rw [rank_inj heq, Option.map_some]
    · exact ih

theorem get?_map {β : Type} {t : Table κ α} {f : κ → α → β} {k : κ} :
    (t.map f).get? k = (t.get? k).map (f k) :=
  find?_map

theorem get?_modify {t : Table κ α} {k k' : κ} {f : α → α} :
    (t.modify k f).get? k' = if rank k = rank k' then (t.get? k').map f else t.get? k' := by
  simp only [modify, get?_map]
  split
  · simp
  · simp

theorem mem_keys_iff {t : Table κ α} {k : κ} : k ∈ t.keys ↔ t.contains k = true := by
  simp only [keys, List.mem_map, contains, Option.isSome_iff_exists, get?_eq_some_iff]
  constructor
  · rintro ⟨⟨k', a⟩, h, rfl⟩; exact ⟨a, h⟩
  · rintro ⟨a, h⟩; exact ⟨_, h, rfl⟩

theorem eq_of_find?_eq {l l' : List (κ × α)} (h : l.Pairwise fun a b => rank a.1 < rank b.1)
    (h' : l'.Pairwise fun a b => rank a.1 < rank b.1) (hf : ∀ k, find? k l = find? k l') :
    l = l' := by
  have hm : ∀ e, e ∈ l ↔ e ∈ l' := fun e => by
    rw [← find?_eq_some_iff h, ← find?_eq_some_iff h', hf]
  clear hf
  induction l generalizing l' with
  | nil =>
    cases l' with
    | nil => rfl
    | cons b rest => exact absurd ((hm b).2 (by simp)) (by simp)
  | cons b rest ih =>
    cases l' with
    | nil => exact absurd ((hm b).1 (by simp)) (by simp)
    | cons c rest' =>
      obtain ⟨hb, hrest⟩ := List.pairwise_cons.1 h
      obtain ⟨hc, hrest'⟩ := List.pairwise_cons.1 h'
      have hbc : b = c := by
        rcases List.mem_cons.1 ((hm b).1 (by simp)) with e | hb'
        · exact e
        · rcases List.mem_cons.1 ((hm c).2 (by simp)) with e | hc'
          · exact e.symm
          · exact absurd (Int.lt_trans (hc _ hb') (hb _ hc')) (Int.lt_irrefl _)
      subst hbc
      rw [ih hrest hrest' fun e => ?_]
      constructor
      · intro he
        rcases List.mem_cons.1 ((hm e).1 (by simp [he])) with rfl | he'
        · exact absurd (hb _ he) (Int.lt_irrefl _)
        · exact he'
      · intro he
        rcases List.mem_cons.1 ((hm e).2 (by simp [he])) with rfl | he'
        · exact absurd (hc _ he) (Int.lt_irrefl _)
        · exact he'

theorem contains_insert {t : Table κ α} {k k' : κ} {a : α} :
    (t.insert k a).contains k' = (decide (rank k = rank k') || t.contains k') := by
  rw [contains, get?_insert]
  split
  · rename_i h
    simp [h]
  · rename_i h
    simp [h, contains]

theorem contains_erase_of_ne {t : Table κ α} {k k' : κ} (h : k ≠ k') :
    (t.erase k).contains k' = t.contains k' := by
  rw [contains, get?_erase_of_ne h, contains]

@[simp] theorem contains_map {β : Type} {t : Table κ α} {f : κ → α → β} {k : κ} :
    (t.map f).contains k = t.contains k := by
  simp [contains, get?_map]

@[simp] theorem contains_modify {t : Table κ α} {k k' : κ} {f : α → α} :
    (t.modify k f).contains k' = t.contains k' :=
  contains_map

theorem get?_modify_self {t : Table κ α} {k : κ} {f : α → α} :
    (t.modify k f).get? k = (t.get? k).map f := by
  simp [get?_modify]

theorem get?_modify_of_ne {t : Table κ α} {k k' : κ} {f : α → α} (h : k ≠ k') :
    (t.modify k f).get? k' = t.get? k' := by
  rw [get?_modify, if_neg fun hr => h (rank_inj hr)]

@[simp] theorem size_map {β : Type} {t : Table κ α} {f : κ → α → β} : (t.map f).size = t.size := by
  simp [size, map]

@[simp] theorem size_modify {t : Table κ α} {k : κ} {f : α → α} : (t.modify k f).size = t.size :=
  size_map

@[ext] theorem ext {t u : Table κ α} (h : ∀ k, t.get? k = u.get? k) : t = u := by
  obtain ⟨l, hl⟩ := t
  obtain ⟨l', hl'⟩ := u
  obtain rfl : l = l' := eq_of_find?_eq hl hl' h
  rfl

theorem insert_eq_self {t : Table κ α} {k : κ} {a : α} (h : t.get? k = some a) : t.insert k a = t := by
  ext k' : 1
  rw [get?_insert]
  split
  · rename_i hr
    rw [← rank_inj hr, h]
  · rfl

theorem modify_congr {t : Table κ α} {k : κ} {f g : α → α} (h : ∀ a, t.get? k = some a → f a = g a) :
    t.modify k f = t.modify k g := by
  ext k' : 1
  rw [get?_modify, get?_modify]
  split
  · rename_i hr
    cases ha : t.get? k' with
    | none => rfl
    | some a => simp [h a (rank_inj hr ▸ ha)]
  · rfl

theorem modify_modify {t : Table κ α} {k : κ} {f g : α → α} :
    (t.modify k f).modify k g = t.modify k fun a => g (f a) := by
  ext k' : 1
  simp only [get?_modify]
  split
  · simp [Function.comp_def]
  · rfl

theorem modify_eq_self {t : Table κ α} {k : κ} {f : α → α} (h : ∀ a, t.get? k = some a → f a = a) :
    t.modify k f = t := by
  ext k' : 1
  rw [get?_modify]
  split
  · rename_i hr
    cases ha : t.get? k' with
    | none => rfl
    | some a => simp [h a (rank_inj hr ▸ ha)]
  · rfl

theorem modify_eq_insert {t : Table κ α} {k : κ} {f : α → α} {a : α} (h : t.get? k = some a) :
    t.modify k f = t.insert k (f a) := by
  ext k' : 1
  rw [get?_modify, get?_insert]
  split
  · rename_i hr
    rw [← rank_inj hr, h, Option.map_some]
  · rfl

theorem insert_insert {t : Table κ α} {k : κ} {a b : α} : (t.insert k a).insert k b = t.insert k b := by
  ext1 k'
  simp only [get?_insert]
  split <;> rfl

theorem insert_comm {t : Table κ α} {k k' : κ} {a b : α} (h : k ≠ k') :
    (t.insert k a).insert k' b = (t.insert k' b).insert k a := by
  ext1 i
  simp only [get?_insert]
  by_cases hi : rank k = rank i
  · have hne : rank k' ≠ rank i := fun hi' => h (rank_inj (hi.trans hi'.symm))
    simp only [if_pos hi, if_neg hne]
  · simp only [if_neg hi]

theorem modify_comm {t : Table κ α} {k k' : κ} {f g : α → α} (h : k ≠ k') :
    (t.modify k f).modify k' g = (t.modify k' g).modify k f := by
  ext1 i
  simp only [get?_modify]
  by_cases hi : rank k = rank i
  · have hne : rank k' ≠ rank i := fun hi' => h (rank_inj (hi.trans hi'.symm))
    simp only [if_pos hi, if_neg hne]
  · simp only [if_neg hi]

theorem insert_modify_comm {t : Table κ α} {k k' : κ} {a : α} {f : α → α} (h : k ≠ k') :
    (t.insert k a).modify k' f = (t.modify k' f).insert k a := by
  ext1 i
  simp only [get?_modify, get?_insert]
  by_cases hi : rank k = rank i
  · have hne : rank k' ≠ rank i := fun hi' => h (rank_inj (hi.trans hi'.symm))
    simp only [if_pos hi, if_neg hne]
  · simp only [if_neg hi]

theorem modify_insert {t : Table κ α} {k : κ} {a : α} {f : α → α} :
    (t.insert k a).modify k f = t.insert k (f a) := by
  rw [modify_eq_insert get?_insert_self, insert_insert]

theorem get?_insert_eq_some_iff {t : Table κ α} {k k' : κ} {a b : α} :
    (t.insert k a).get? k' = some b ↔ k' = k ∧ b = a ∨ k' ≠ k ∧ t.get? k' = some b := by
  by_cases h : k' = k
  · subst h
    simp [eq_comm]
  · simp [get?_insert_of_ne (Ne.symm h), h]

theorem get?_erase_eq_some_iff {t : Table κ α} {k k' : κ} {b : α} :
    (t.erase k).get? k' = some b ↔ k' ≠ k ∧ t.get? k' = some b := by
  by_cases h : k' = k
  · subst h
    simp
  · simp [get?_erase_of_ne (Ne.symm h), h]

theorem erase_modify {t : Table κ α} {k : κ} {f : α → α} : (t.modify k f).erase k = t.erase k := by
  ext1 k'
  by_cases h : k = k'
  · subst h
    rw [get?_erase_self, get?_erase_self]
  · rw [get?_erase_of_ne h, get?_erase_of_ne h, get?_modify_of_ne h]

theorem length_place {k : κ} {a : α} {l : List (κ × α)} (h : find? k l = none) :
    (place k a l).length = l.length + 1 := by
  induction l with
  | nil => rfl
  | cons e rest ih =>
    simp only [find?] at h
    split at h
    · cases h
    · rename_i hne
      simp only [place, hne, if_false]
      split
      · rfl
      · rw [List.length_cons, ih h, List.length_cons]

theorem size_insert {t : Table κ α} {k : κ} {a : α} (h : t.contains k = false) :
    (t.insert k a).size = t.size + 1 := by
  rw [contains, Option.isSome_eq_false_iff, Option.isNone_iff_eq_none] at h
  exact length_place h

theorem size_insert_of_contains {t : Table κ α} {k : κ} {a : α} (h : t.contains k = true) :
    (t.insert k a).size = t.size := by
  obtain ⟨b, hb⟩ := Option.isSome_iff_exists.1 h
  rw [← modify_eq_insert (f := fun _ => a) hb, size_modify]

theorem size_erase_le {t : Table κ α} {k : κ} : (t.erase k).size ≤ t.size :=
  List.length_filter_le ..

theorem contains_of_get? {t : Table κ α} {k : κ} {a : α} (h : t.get? k = some a) :
    t.contains k = true := by
  simp [contains, h]

/-! ## Many entries -/

section InsertAll

variable {β : Type} {key : β → κ} {value : β → α} {l : List β}

/-- The table with an entry for each member of a list, later ones over earlier ones with the same key. -/
def insertAll (t : Table κ α) (key : β → κ) (value : β → α) (l : List β) : Table κ α :=
  l.foldl (fun t b => t.insert (key b) (value b)) t

theorem contains_insertAll {t : Table κ α} {k : κ} :
    (t.insertAll key value l).contains k = true ↔ t.contains k = true ∨ ∃ b ∈ l, key b = k := by
  induction l generalizing t with
  | nil => simp [insertAll]
  | cons b rest ih =>
    have hrank : rank (key b) = rank k ↔ key b = k := ⟨rank_inj, fun h => h ▸ rfl⟩
    refine (ih (t := t.insert (key b) (value b))).trans ?_
    simp only [contains_insert, Bool.or_eq_true, decide_eq_true_eq, hrank, List.mem_cons,
      exists_eq_or_imp, or_assoc, or_left_comm]

theorem get?_insertAll_of_not_mem {t : Table κ α} {k : κ} (h : ∀ b ∈ l, key b ≠ k) :
    (t.insertAll key value l).get? k = t.get? k := by
  induction l generalizing t with
  | nil => rfl
  | cons b rest ih =>
    exact (ih fun b' hb' => h b' (List.mem_cons_of_mem _ hb')).trans
      (get?_insert_of_ne (h b (List.mem_cons_self ..)))

theorem get?_insertAll_of_mem {t : Table κ α} (h : l.Pairwise fun b b' => key b ≠ key b') {b : β}
    (hb : b ∈ l) : (t.insertAll key value l).get? (key b) = some (value b) := by
  induction l generalizing t with
  | nil => cases hb
  | cons b₀ rest ih =>
    obtain ⟨hapart, hrest⟩ := List.pairwise_cons.1 h
    rcases List.mem_cons.1 hb with rfl | hb
    · exact (get?_insertAll_of_not_mem fun b' hb' => Ne.symm (hapart b' hb')).trans get?_insert_self
    · exact ih hrest hb

end InsertAll

end Table

end Switchboard
