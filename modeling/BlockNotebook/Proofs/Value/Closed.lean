import BlockNotebook.Proofs.Value.Place
/-!
Data that stands on its own.

Closed data refers to no collection around it, so that its items and entries are
the parts it is made of. Plain data is closed, and so is what is put together
from closed parts.
-/

namespace BlockNotebook

namespace Value

/-- No part of the data refers to a collection around the data. -/
def IsClosed (v : Value) : Prop := ∀ outer depth, replace outer depth v = v

theorem IsPlain.isClosed {v : Value} (h : IsPlain v) : v.IsClosed := replace_of_isPlain v h

theorem isClosed_str (t : Text) : IsClosed (.str t) := fun _ _ => rfl

theorem replaceList_of_isClosed {items : List Value} (h : ∀ x ∈ items, IsClosed x) (outer : Value) (depth : Nat) :
    replaceList outer depth items = items := by
  induction items with
  | nil => rfl
  | cons x rest ih =>
    obtain ⟨hx, hrest⟩ := List.forall_mem_cons.1 h
    rw [replaceList, hx, ih hrest]

theorem replaceEntries_of_isClosed {entries : List (Value × Value)} (h : ∀ e ∈ entries, IsClosed e.2) (outer : Value)
    (depth : Nat) : replaceEntries outer depth entries = entries := by
  induction entries with
  | nil => rfl
  | cons e rest ih =>
    obtain ⟨he, hrest⟩ := List.forall_mem_cons.1 h
    rw [replaceEntries, he, ih hrest]

theorem isClosed_list {items : List Value} (h : ∀ x ∈ items, IsClosed x) : IsClosed (.list items) :=
  fun outer depth => by rw [replace, replaceList_of_isClosed h]

theorem isClosed_pair {a b : Value} (ha : IsClosed a) (hb : IsClosed b) : IsClosed (.pair a b) :=
  fun outer depth => by rw [replace, ha, hb]

theorem isClosed_map {entries : List (Value × Value)} (h : ∀ e ∈ entries, IsClosed e.2) : IsClosed (.map entries) :=
  fun outer depth => by rw [replace, replaceEntries_of_isClosed h]

/-! ## Parts of closed data -/

theorem items?_list {items : List Value} (h : ∀ x ∈ items, IsClosed x) : (Value.list items).items? = some items :=
  congrArg some ((List.map_congr_left fun x hx => h x hx _ 0).trans (List.map_id items))

theorem entries?_map {entries : List (Value × Value)} (h : ∀ e ∈ entries, IsClosed e.2) :
    (Value.map entries).entries? = some entries := by
  have hentry : ∀ e ∈ entries, (e.1, within (.map entries) e.2) = e := fun e he => by rw [within, h e he]
  exact congrArg some ((List.map_congr_left hentry).trans (List.map_id' entries))

theorem lookup_map (g : Value → Value) (key : Text) (entries : List (Value × Value)) :
    lookup key (entries.map fun e => (e.1, g e.2)) = (lookup key entries).map g := by
  induction entries with
  | nil => rfl
  | cons e rest ih =>
    obtain ⟨k, x⟩ := e
    rw [List.map_cons]
    cases k with
    | str k =>
      rw [lookup, lookup, ih]
      split <;> rfl
    | _ => exact ih

/-- A closed value at a key of a mapping is found as it is, whatever else the mapping holds. -/
theorem get?_map {entries : List (Value × Value)} {key : Text} {x : Value} (h : lookup key entries = some x)
    (hx : x.IsClosed) : (Value.map entries).get? key = some x := by
  rw [get?, entries?, Option.bind_some, lookup_map, h, Option.map_some, within, hx]

/-! ## Keys of entries -/

/-- No two entries have one key. -/
def KeysDistinct (entries : List (Value × Value)) : Prop := entries.Pairwise fun e f => sameKey e.1 f.1 = false

/-- One more entry brings no key and no value besides its own. -/
theorem forall_mem_insert {P Q : Value → Prop} {entries : List (Value × Value)}
    (h : ∀ e ∈ entries, P e.1 ∧ Q e.2) {key value : Value} (hkey : P key) (hvalue : Q value) :
    ∀ e ∈ insert entries key value, P e.1 ∧ Q e.2 := by
  induction entries with
  | nil => exact fun e he => by cases List.mem_singleton.1 he; exact ⟨hkey, hvalue⟩
  | cons e rest ih =>
    obtain ⟨he, hrest⟩ := List.forall_mem_cons.1 h
    rw [insert]
    split
    · exact List.forall_mem_cons.2 ⟨⟨he.1, hvalue⟩, hrest⟩
    · exact List.forall_mem_cons.2 ⟨he, ih hrest⟩

theorem KeysDistinct.insert {entries : List (Value × Value)} (h : KeysDistinct entries) (key value : Value) :
    KeysDistinct (insert entries key value) := by
  induction entries with
  | nil => exact List.pairwise_singleton _ _
  | cons e rest ih =>
    obtain ⟨he, hrest⟩ := List.pairwise_cons.1 h
    rw [Value.insert]
    split
    · exact List.pairwise_cons.2 ⟨he, hrest⟩
    · rename_i hne
      have hnew : ∀ f ∈ Value.insert rest key value, sameKey e.1 f.1 = false ∧ True :=
        forall_mem_insert (P := fun k => sameKey e.1 k = false) (Q := fun _ => True)
          (fun f hf => ⟨he f hf, trivial⟩) (Bool.eq_false_iff.2 hne) trivial
      exact List.pairwise_cons.2 ⟨fun f hf => (hnew f hf).1, ih hrest⟩

/-- A new key comes last. -/
theorem insert_of_new {entries : List (Value × Value)} {key : Value} (h : ∀ e ∈ entries, sameKey e.1 key = false)
    (value : Value) : insert entries key value = entries ++ [(key, value)] := by
  induction entries with
  | nil => rfl
  | cons e rest ih =>
    obtain ⟨he, hrest⟩ := List.forall_mem_cons.1 h
    rw [insert, he, ih hrest]
    rfl

/-- Entries put together one by one. -/
def gather (known es : List (Value × Value)) : List (Value × Value) :=
  es.foldl (fun known e => insert known e.1 e.2) known

theorem KeysDistinct.gather {known : List (Value × Value)} (h : KeysDistinct known) (es : List (Value × Value)) :
    KeysDistinct (gather known es) := by
  induction es generalizing known with
  | nil => exact h
  | cons e rest ih => exact ih (h.insert e.1 e.2)

theorem forall_mem_gather {P Q : Value → Prop} {known es : List (Value × Value)} (h : ∀ e ∈ known, P e.1 ∧ Q e.2)
    (hes : ∀ e ∈ es, P e.1 ∧ Q e.2) : ∀ e ∈ gather known es, P e.1 ∧ Q e.2 := by
  induction es generalizing known with
  | nil => exact h
  | cons e rest ih =>
    obtain ⟨he, hrest⟩ := List.forall_mem_cons.1 hes
    exact ih (forall_mem_insert h he.1 he.2) hrest

/-- Entries with distinct keys stay as they are. -/
theorem gather_of_keysDistinct {known es : List (Value × Value)} (h : KeysDistinct (known ++ es)) :
    gather known es = known ++ es := by
  induction es generalizing known with
  | nil => exact (List.append_nil known).symm
  | cons e rest ih =>
    have hnew : ∀ f ∈ known, sameKey f.1 e.1 = false := fun f hf =>
      (List.pairwise_append.1 h).2.2 f hf e List.mem_cons_self
    have hrest : KeysDistinct (Value.insert known e.1 e.2 ++ rest) := by
      rw [insert_of_new hnew, List.append_assoc]
      exact h
    calc gather known (e :: rest)
      _ = gather (insert known e.1 e.2) rest := rfl
      _ = insert known e.1 e.2 ++ rest := ih hrest
      _ = known ++ e :: rest := by rw [insert_of_new hnew, List.append_assoc]; rfl

end Value

end BlockNotebook
