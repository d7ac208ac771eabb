/-! Finite maps as association lists without repeated keys. A new key goes to the end and a
known key keeps its place, so the entries show insertion order. Reading back is fixed by three
equations: what was inserted is found, what was erased is not, every other key is untouched. -/
namespace Repartee

structure Assoc (κ ν : Type) where
  entries : List (κ × ν)
  distinct : (entries.map Prod.fst).Nodup

namespace Assoc
variable {κ ν : Type}

theorem ext {m n : Assoc κ ν} (h : m.entries = n.entries) : m = n := by
  cases m; cases n; cases h; rfl

def keys (m : Assoc κ ν) : List κ := m.entries.map Prod.fst

def values (m : Assoc κ ν) : List ν := m.entries.map Prod.snd

def size (m : Assoc κ ν) : Nat := m.entries.length

def isEmpty (m : Assoc κ ν) : Bool := m.entries.isEmpty

def mapValues {μ : Type} (f : ν → μ) (m : Assoc κ ν) : Assoc κ μ :=
  ⟨m.entries.map (fun e => (e.1, f e.2)), by simpa [List.map_map, Function.comp_def] using m.distinct⟩

def empty : Assoc κ ν := ⟨[], by simp⟩

instance : EmptyCollection (Assoc κ ν) := ⟨empty⟩
instance : Inhabited (Assoc κ ν) := ⟨empty⟩

variable [DecidableEq κ]

def find (k : κ) : List (κ × ν) → Option ν
  | [] => none
  | e :: rest => if e.1 = k then some e.2 else find k rest

def put (k : κ) (v : ν) : List (κ × ν) → List (κ × ν)
  | [] => [(k, v)]
  | e :: rest => if e.1 = k then (k, v) :: rest else e :: put k v rest

def without (k : κ) (es : List (κ × ν)) : List (κ × ν) := es.filter (fun e => e.1 ≠ k)

theorem keysPut {k k' : κ} {v : ν} {es : List (κ × ν)} :
    k' ∈ (put k v es).map Prod.fst ↔ k' = k ∨ k' ∈ es.map Prod.fst := by
  induction es with
  | nil => simp [put]
  | cons e rest ih =>
    by_cases h : e.1 = k
    · simp [put, h]
    · simp only [put, h, if_false, List.map_cons, List.mem_cons, ih]
      constructor <;> (rintro (h | h | h) <;> simp [h])

theorem nodupPut (k : κ) (v : ν) {es : List (κ × ν)} (h : (es.map Prod.fst).Nodup) :
    ((put k v es).map Prod.fst).Nodup := by
  induction es with
  | nil => simp [put]
  | cons e rest ih =>
    simp only [List.map_cons, List.nodup_cons] at h
    by_cases hk : e.1 = k
    · subst hk
      simp only [put, if_true, List.map_cons, List.nodup_cons]
      exact h
    · simp only [put, hk, if_false, List.map_cons, List.nodup_cons]
      exact ⟨fun m => (keysPut.1 m).elim hk h.1, ih h.2⟩

theorem nodupWithout (k : κ) {es : List (κ × ν)} (h : (es.map Prod.fst).Nodup) :
    ((without k es).map Prod.fst).Nodup :=
  List.Pairwise.sublist (List.filter_sublist.map Prod.fst) h

theorem findPut (k k' : κ) (v : ν) (es : List (κ × ν)) :
    find k' (put k v es) = if k' = k then some v else find k' es := by
  induction es with
  | nil => simp only [put, find, @eq_comm _ k k']
  | cons e rest ih =>
    by_cases h : e.1 = k
    · subst h
      simp only [put, if_true, find, @eq_comm _ e.1 k']
      split <;> rfl
    · simp only [put, h, if_false, find, ih]
      by_cases h' : k' = k
      · subst h'
        simp [h]
      · simp [h']

theorem findWithout (k k' : κ) (es : List (κ × ν)) :
    find k' (without k es) = if k' = k then none else find k' es := by
  induction es with
  | nil => simp [without, find]
  | cons e rest ih =>
    unfold without at ih ⊢
    by_cases h : e.1 = k
    · subst h
      simp only [List.filter_cons, ne_eq, not_true, decide_false, Bool.false_eq_true, if_false, ih, find,
        @eq_comm _ e.1 k']
      split <;> rfl
    · simp only [List.filter_cons, ne_eq, h, not_false_iff, decide_true, if_true, find, ih]
      by_cases h' : k' = k
      · subst h'
        simp [h]
      · simp [h']

theorem putPut (k : κ) (v v' : ν) (es : List (κ × ν)) : put k v' (put k v es) = put k v' es := by
  induction es with
  | nil => simp only [put, if_true]
  | cons e rest ih =>
    by_cases h : e.1 = k
    · simp only [put, h, if_true]
    · simp only [put, h, if_false, ih]

theorem findMember {k : κ} {v : ν} {es : List (κ × ν)} (h : find k es = some v) : (k, v) ∈ es := by
  induction es with
  | nil => simp [find] at h
  | cons e rest ih => by_cases hk : e.1 = k <;> simp_all [find, Prod.ext_iff]

def get? (m : Assoc κ ν) (k : κ) : Option ν := find k m.entries

def contains (m : Assoc κ ν) (k : κ) : Bool := (m.get? k).isSome

def insert (m : Assoc κ ν) (k : κ) (v : ν) : Assoc κ ν :=
  ⟨put k v m.entries, nodupPut k v m.distinct⟩

def erase (m : Assoc κ ν) (k : κ) : Assoc κ ν :=
  ⟨without k m.entries, nodupWithout k m.distinct⟩

def ofList (es : List (κ × ν)) : Assoc κ ν := es.foldl (fun m e => m.insert e.1 e.2) empty

@[simp] theorem getEmpty (k : κ) : (empty : Assoc κ ν).get? k = none := rfl

theorem getInsert (m : Assoc κ ν) (k k' : κ) (v : ν) :
    (m.insert k v).get? k' = if k' = k then some v else m.get? k' := findPut k k' v m.entries

@[simp] theorem getInsertSelf (m : Assoc κ ν) (k : κ) (v : ν) : (m.insert k v).get? k = some v := by
  simp [getInsert]

theorem getInsertOther (m : Assoc κ ν) {k k' : κ} (v : ν) (h : k' ≠ k) :
    (m.insert k v).get? k' = m.get? k' := by simp [getInsert, h]

theorem insertInsert (m : Assoc κ ν) (k : κ) (v v' : ν) : (m.insert k v).insert k v' = m.insert k v' :=
  ext (putPut k v v' m.entries)

theorem getErase (m : Assoc κ ν) (k k' : κ) :
    (m.erase k).get? k' = if k' = k then none else m.get? k' := findWithout k k' m.entries

theorem getMapValues {μ : Type} (f : ν → μ) (m : Assoc κ ν) (k : κ) :
    (m.mapValues f).get? k = (m.get? k).map f := by
  cases m with | mk es _ =>
  simp only [get?, mapValues]
  induction es with
  | nil => rfl
  | cons e rest ih => by_cases h : e.1 = k <;> simp_all [find]

theorem mapValuesInsert {κ ν μ : Type} [DecidableEq κ] (f : ν → μ) (m : Assoc κ ν) (k : κ) (v : ν) :
    (m.insert k v).mapValues f = (m.mapValues f).insert k (f v) := by
  refine ext ?_
  change (put k v m.entries).map (fun e => (e.1, f e.2)) = put k (f v) (m.entries.map fun e => (e.1, f e.2))
  induction m.entries with
  | nil => rfl
  | cons e rest ih =>
    by_cases same : e.1 = k
    · simp only [put, same, if_true, List.map_cons]
    · simp only [put, same, if_false, List.map_cons, ih]

end Assoc

end Repartee
