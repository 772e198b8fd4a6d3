/-! Finite maps listed in ascending key order. The list is the whole value, so two maps that answer
every look-up alike are equal, and printing a map needs no sorting. -/
namespace CachePartition

/-- A strict total order on keys. -/
class KeyOrder (κ : Type) extends LT κ where
  decLt : DecidableLT κ
  decEq : DecidableEq κ
  lt_irrefl : ∀ a : κ, ¬ a < a
  lt_trans : ∀ {a b c : κ}, a < b → b < c → a < c
  lt_connected : ∀ a b : κ, a < b ∨ a = b ∨ b < a

instance KeyOrder.decidableLT {κ : Type} [o : KeyOrder κ] : DecidableLT κ := o.decLt

/-- Texts in code point order, which is the byte order of UTF-8. -/
instance : KeyOrder String where
  decLt := inferInstance
  decEq := inferInstance
  lt_irrefl := String.lt_irrefl
  lt_trans := String.lt_trans
  lt_connected a b := by
    rcases Decidable.em (a < b) with h | h
    · exact .inl h
    · rcases Decidable.em (b < a) with h' | h'
      · exact .inr (.inr h')
      · exact .inr (.inl (String.le_antisymm (String.not_lt.mp h') (String.not_lt.mp h)))

/-- The place of a namespaced object: its namespace, then its name. -/
structure ObjectKey where
  /-- The namespace. -/
  space : String
  name : String
  deriving DecidableEq, Repr

namespace ObjectKey

instance : LT ObjectKey where
  lt a b := a.space < b.space ∨ a.space = b.space ∧ a.name < b.name

instance : DecidableLT ObjectKey := fun a b =>
  inferInstanceAs (Decidable (a.space < b.space ∨
    a.space = b.space ∧ a.name < b.name))

theorem lt_iff {a b : ObjectKey} : a < b ↔
    a.space < b.space ∨ a.space = b.space ∧ a.name < b.name := Iff.rfl

instance : KeyOrder ObjectKey where
  decLt := inferInstance
  decEq := inferInstance
  lt_irrefl a h := by
    rcases h with h | h
    · exact String.lt_irrefl _ h
    · exact String.lt_irrefl _ h.2
  lt_trans := by
    rintro ⟨a, a'⟩ ⟨b, b'⟩ ⟨c, c'⟩ h₁ h₂
    simp only [lt_iff] at *
    rcases h₁ with h₁ | ⟨rfl, h₁⟩ <;> rcases h₂ with h₂ | ⟨rfl, h₂⟩
    · exact .inl (String.lt_trans h₁ h₂)
    · exact .inl h₁
    · exact .inl h₂
    · exact .inr ⟨rfl, String.lt_trans h₁ h₂⟩
  lt_connected := by
    rintro ⟨a, a'⟩ ⟨b, b'⟩
    simp only [lt_iff, mk.injEq]
    rcases KeyOrder.lt_connected a b with h | rfl | h
    · exact .inl (.inl h)
    · rcases KeyOrder.lt_connected a' b' with h | rfl | h
      · exact .inl (.inr ⟨rfl, h⟩)
      · exact .inr (.inl ⟨rfl, rfl⟩)
      · exact .inr (.inr (.inr ⟨rfl, h⟩))
    · exact .inr (.inr (.inl h))

end ObjectKey

/-- A finite map: its bindings by strictly ascending key. -/
structure SortedMap (κ α : Type) [KeyOrder κ] where
  entries : List (κ × α)
  ascending : entries.Pairwise (fun a b => a.1 < b.1)

abbrev TextMap (α : Type) := SortedMap String α

namespace SortedMap

variable {κ α β : Type} [KeyOrder κ]

/-- Puts a binding into an ascending list in place of one with the same key. -/
def insertEntry (k : κ) (v : α) : List (κ × α) → List (κ × α)
  | [] => [(k, v)]
  | e :: rest =>
    if k < e.1 then (k, v) :: e :: rest
    else if e.1 < k then e :: insertEntry k v rest
    else (k, v) :: rest

theorem mem_insertEntry {k : κ} {v : α} {l : List (κ × α)} {a : κ × α}
    (h : a ∈ insertEntry k v l) : a = (k, v) ∨ a ∈ l := by
  induction l with
  | nil => simpa [insertEntry] using h
  | cons e rest ih =>
    simp only [insertEntry] at h
    split at h
    · simpa using h
    · split at h
      · rcases List.mem_cons.mp h with rfl | h
        · exact .inr List.mem_cons_self
        · exact (ih h).imp_right (List.mem_cons_of_mem _)
      · rcases List.mem_cons.mp h with rfl | h
        · exact .inl rfl
        · exact .inr (List.mem_cons_of_mem _ h)

theorem insertEntry_ascending (k : κ) (v : α) {l : List (κ × α)}
    (h : l.Pairwise (fun a b => a.1 < b.1)) :
    (insertEntry k v l).Pairwise (fun a b => a.1 < b.1) := by
  induction l with
  | nil => simp [insertEntry]
  | cons e rest ih =>
    obtain ⟨he, hr⟩ := List.pairwise_cons.mp h
    simp only [insertEntry]
    split
    · next hk =>
      refine List.pairwise_cons.mpr ⟨?_, h⟩
      intro a ha
      rcases List.mem_cons.mp ha with rfl | ha
      · exact hk
      · exact KeyOrder.lt_trans hk (he a ha)
    · next hk =>
      split
      · next hk' =>
        refine List.pairwise_cons.mpr ⟨?_, ih hr⟩
        intro a ha
        rcases mem_insertEntry ha with rfl | ha
        · exact hk'
        · exact he a ha
      · next hk' =>
        have hek : e.1 = k := by
          rcases KeyOrder.lt_connected e.1 k with h | h | h
          · exact absurd h hk'
          · exact h
          · exact absurd h hk
        exact List.pairwise_cons.mpr ⟨fun a ha => hek ▸ he a ha, hr⟩

def empty : SortedMap κ α := ⟨[], List.Pairwise.nil⟩

instance : EmptyCollection (SortedMap κ α) := ⟨empty⟩

instance : Inhabited (SortedMap κ α) := ⟨empty⟩

instance [Repr κ] [Repr α] : Repr (SortedMap κ α) := ⟨fun m _ => repr m.entries⟩

theorem eq_of_entries {m n : SortedMap κ α} (h : m.entries = n.entries) : m = n := by
  cases m; cases n; cases h; rfl

instance [DecidableEq α] : DecidableEq (SortedMap κ α) := fun m n =>
  have := KeyOrder.decEq (κ := κ)
  if h : m.entries = n.entries then isTrue (eq_of_entries h)
  else isFalse fun hmn => h (hmn ▸ rfl)

/-- Binds `k` to `v`, whatever it was bound to. -/
def insert (m : SortedMap κ α) (k : κ) (v : α) : SortedMap κ α :=
  ⟨insertEntry k v m.entries, insertEntry_ascending k v m.ascending⟩

/-- Keeps the bindings that satisfy a test. -/
def filter (m : SortedMap κ α) (p : κ → α → Bool) : SortedMap κ α :=
  ⟨m.entries.filter fun e => p e.1 e.2, m.ascending.filter _⟩

def erase (m : SortedMap κ α) (k : κ) : SortedMap κ α :=
  have := KeyOrder.decEq (κ := κ)
  m.filter fun k' _ => k' ≠ k

/-- The value in an ascending list of bindings. -/
def findEntry (k : κ) : List (κ × α) → Option α
  | [] => none
  | e :: rest =>
    have := KeyOrder.decEq (κ := κ)
    if e.1 = k then some e.2 else findEntry k rest

def get? (m : SortedMap κ α) (k : κ) : Option α :=
  findEntry k m.entries

def getD (m : SortedMap κ α) (k : κ) (default : α) : α :=
  (m.get? k).getD default

def contains (m : SortedMap κ α) (k : κ) : Bool :=
  (m.get? k).isSome

def keys (m : SortedMap κ α) : List κ :=
  m.entries.map (·.1)

def values (m : SortedMap κ α) : List α :=
  m.entries.map (·.2)

def size (m : SortedMap κ α) : Nat :=
  m.entries.length

/-- The map of a list of bindings, a later one replacing an earlier one of the same key. -/
def ofList (l : List (κ × α)) : SortedMap κ α :=
  l.foldl (fun m e => m.insert e.1 e.2) empty

theorem findEntry_eq_none {k : κ} {l : List (κ × α)} (h : ∀ a ∈ l, a.1 ≠ k) :
    findEntry k l = none := by
  induction l with
  | nil => rfl
  | cons e rest ih =>
    simp only [findEntry]
    rw [if_neg (h e List.mem_cons_self)]
    exact ih fun a ha => h a (List.mem_cons_of_mem _ ha)

theorem findEntry_insertEntry_self (k : κ) (v : α) (l : List (κ × α)) :
    findEntry k (insertEntry k v l) = some v := by
  induction l with
  | nil => simp [insertEntry, findEntry]
  | cons e rest ih =>
    simp only [insertEntry]
    split
    · simp [findEntry]
    · split
      · next hk =>
        simp only [findEntry]
        rw [if_neg fun h => KeyOrder.lt_irrefl k (by rw [h] at hk; exact hk), ih]
      · simp [findEntry]

theorem findEntry_insertEntry_ne {k k' : κ} (hne : k' ≠ k) (v : α) (l : List (κ × α)) :
    findEntry k' (insertEntry k v l) = findEntry k' l := by
  induction l with
  | nil => simp [insertEntry, findEntry, hne.symm]
  | cons e rest ih =>
    simp only [insertEntry]
    split
    · simp [findEntry, hne.symm]
    · split
      · simp only [findEntry, ih]
      · next h₁ h₂ =>
        have hek : e.1 = k := by
          rcases KeyOrder.lt_connected e.1 k with h | h | h
          · exact absurd h h₂
          · exact h
          · exact absurd h h₁
        simp [findEntry, hek, hne.symm]

@[simp] theorem get?_empty (k : κ) : (empty : SortedMap κ α).get? k = none := rfl

@[simp] theorem get?_insert_self (m : SortedMap κ α) (k : κ) (v : α) :
    (m.insert k v).get? k = some v :=
  findEntry_insertEntry_self k v m.entries

theorem get?_insert_ne (m : SortedMap κ α) {k k' : κ} (h : k' ≠ k) (v : α) :
    (m.insert k v).get? k' = m.get? k' :=
  findEntry_insertEntry_ne h v m.entries

@[simp] theorem getD_insert_self (m : SortedMap κ α) (k : κ) (v d : α) :
    (m.insert k v).getD k d = v := by
  simp [getD]

theorem getD_insert_ne (m : SortedMap κ α) {k k' : κ} (h : k' ≠ k) (v d : α) :
    (m.insert k v).getD k' d = m.getD k' d := by
  rw [getD, get?_insert_ne m h, getD]

theorem findEntry_filter {l : List (κ × α)} (h : l.Pairwise (fun a b => a.1 < b.1))
    (p : κ → α → Bool) (k : κ) :
    findEntry k (l.filter fun e => p e.1 e.2) = (findEntry k l).filter (p k) := by
  induction l with
  | nil => rfl
  | cons e rest ih =>
    obtain ⟨he, hr⟩ := List.pairwise_cons.mp h
    by_cases hk : e.1 = k
    · subst hk
      have hnone : findEntry e.1 (rest.filter fun e => p e.1 e.2) = none :=
        findEntry_eq_none fun a ha hak =>
          KeyOrder.lt_irrefl e.1 (by
            have := he a (List.mem_filter.mp ha).1
            rwa [hak] at this)
      by_cases hp : p e.1 e.2 = true
      · simp [hp, findEntry, Option.filter_some]
      · simp [hp, findEntry, hnone, Option.filter_some]
    · by_cases hp : p e.1 e.2 = true
      · simp [hp, findEntry, hk, ih hr]
      · simp [hp, findEntry, hk, ih hr]

theorem get?_filter (m : SortedMap κ α) (p : κ → α → Bool) (k : κ) :
    (m.filter p).get? k = (m.get? k).filter (p k) :=
  findEntry_filter m.ascending p k

/-- Keeping bindings by their key alone. -/
theorem get?_filter_key (m : SortedMap κ α) (p : κ → Bool) (k : κ) :
    (m.filter fun k _ => p k).get? k = if p k then m.get? k else none := by
  rw [get?_filter]
  cases p k <;> cases m.get? k <;> rfl

@[simp] theorem get?_erase_self (m : SortedMap κ α) (k : κ) : (m.erase k).get? k = none := by
  rw [erase, get?_filter]
  cases m.get? k <;> simp [Option.filter]

theorem get?_erase_ne (m : SortedMap κ α) {k k' : κ} (h : k' ≠ k) :
    (m.erase k).get? k' = m.get? k' := by
  rw [erase, get?_filter]
  cases m.get? k' <;> simp [Option.filter, h]

theorem mem_of_findEntry {k : κ} {v : α} {l : List (κ × α)} (h : findEntry k l = some v) :
    (k, v) ∈ l := by
  induction l with
  | nil => cases h
  | cons e rest ih =>
    simp only [findEntry] at h
    split at h
    · next hk =>
      subst hk
      cases h
      exact List.mem_cons_self
    · exact List.mem_cons_of_mem _ (ih h)

theorem findEntry_of_mem {l : List (κ × α)} (h : l.Pairwise (fun a b => a.1 < b.1)) {k : κ} {v : α}
    (hm : (k, v) ∈ l) : findEntry k l = some v := by
  induction l with
  | nil => cases hm
  | cons e rest ih =>
    obtain ⟨he, hr⟩ := List.pairwise_cons.mp h
    rcases List.mem_cons.mp hm with rfl | hm
    · simp [findEntry]
    · simp only [findEntry]
      rw [if_neg, ih hr hm]
      intro hek
      exact KeyOrder.lt_irrefl k (by simpa [hek] using he _ hm)

theorem get?_eq_some_iff {m : SortedMap κ α} {k : κ} {v : α} :
    m.get? k = some v ↔ (k, v) ∈ m.entries :=
  ⟨mem_of_findEntry, findEntry_of_mem m.ascending⟩

theorem contains_iff_mem_keys {m : SortedMap κ α} {k : κ} : m.contains k = true ↔ k ∈ m.keys := by
  rw [contains, Option.isSome_iff_exists, keys, List.mem_map]
  constructor
  · rintro ⟨v, h⟩
    exact ⟨(k, v), get?_eq_some_iff.mp h, rfl⟩
  · rintro ⟨⟨k', v⟩, h, rfl⟩
    exact ⟨v, get?_eq_some_iff.mpr h⟩

theorem keys_nodup (m : SortedMap κ α) : m.keys.Nodup := by
  refine List.pairwise_map.mpr (m.ascending.imp fun h heq => ?_)
  exact KeyOrder.lt_irrefl _ (heq ▸ h)

theorem ofList_concat (l : List (κ × α)) (e : κ × α) :
    ofList (l ++ [e]) = (ofList l).insert e.1 e.2 := by
  simp [ofList]

theorem entries_eq_of_findEntry {l l' : List (κ × α)}
    (h : l.Pairwise (fun a b => a.1 < b.1)) (h' : l'.Pairwise (fun a b => a.1 < b.1))
    (hget : ∀ k, findEntry k l = findEntry k l') : l = l' := by
  induction l generalizing l' with
  | nil =>
    cases l' with
    | nil => rfl
    | cons e rest => simpa [findEntry] using hget e.1
  | cons e rest ih =>
    cases l' with
    | nil => simpa [findEntry] using hget e.1
    | cons e' rest' =>
      obtain ⟨he, hr⟩ := List.pairwise_cons.mp h
      obtain ⟨he', hr'⟩ := List.pairwise_cons.mp h'
      have first : (e.1, e.2) ∈ e' :: rest' :=
        mem_of_findEntry (by rw [← hget]; simp [findEntry])
      have first' : (e'.1, e'.2) ∈ e :: rest :=
        mem_of_findEntry (by rw [hget]; simp [findEntry])
      have hee : e = e' := by
        rcases List.mem_cons.mp first with heq | hm
        · exact heq
        · rcases List.mem_cons.mp first' with heq | hm'
          · exact heq.symm
          · exact absurd (KeyOrder.lt_trans (he _ hm') (he' _ hm)) (KeyOrder.lt_irrefl _)
      subst hee
      refine congrArg _ (ih hr hr' fun k => ?_)
      by_cases hk : e.1 = k
      · subst hk
        rw [findEntry_eq_none fun a ha hak => KeyOrder.lt_irrefl e.1 (by
            have := he a ha
            rwa [hak] at this),
          findEntry_eq_none fun a ha hak => KeyOrder.lt_irrefl e.1 (by
            have := he' a ha
            rwa [hak] at this)]
      · simpa [findEntry, hk] using hget k

/-- Maps that answer every look-up alike are equal. -/
theorem ext {m n : SortedMap κ α} (h : ∀ k, m.get? k = n.get? k) : m = n :=
  eq_of_entries (entries_eq_of_findEntry m.ascending n.ascending h)

end SortedMap

end CachePartition
