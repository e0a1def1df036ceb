import FrameworkUpgrade.Json.Reader

/-!
# `FrameworkUpgrade.Proofs.Json.Members`: reading a changed object

What `find?` reads after `put` and after `update`: the change under the key that was
changed, and what was there before under every other key. No lemma about `find?` asks for
distinct keys, because all three functions stop at the first member with the key.

The lemmas about keys say what the two changes do to an object as a whole. `update` keeps the
keys in their places, and `put` does too or adds its key at the end. Where the keys are
distinct, an update changes every member with the key. `Keyed P` packs distinct keys with a
property of every value, and the changes and the reader's `ofWritten` keep to it.

`Alike R` compares two objects place by place: the keys are the same, and `R` relates the
values under each of them.
-/

set_option autoImplicit false

namespace FrameworkUpgrade

namespace Json

namespace Members

variable {key name : String} {f : Json → Json} {value : Json} {ms : Members}

/-- Under the changed key is what was there, changed. -/
theorem find?_update_self (key : String) (f : Json → Json) (ms : Members) :
    find? key (update key f ms) = (find? key ms).map f := by
  fun_induction update key f ms with
  | case1 => rfl
  | case2 v ms =>
    rw [find?, if_pos rfl, find?, if_pos rfl]
    rfl
  | case3 k v ms hk ih => rw [find?, if_neg hk, ih, find?, if_neg hk]

/-- Under another key is what was there. -/
theorem find?_update_ne (h : name ≠ key) (f : Json → Json) (ms : Members) :
    find? name (update key f ms) = find? name ms := by
  fun_induction update key f ms with
  | case1 => rfl
  | case2 v ms => rw [find?, if_neg h.symm, find?, if_neg h.symm]
  | case3 k v ms hk ih => rw [find?, ih, find?]

/-- Under the key that was put is the new value. -/
theorem find?_put_self (key : String) (value : Json) (ms : Members) :
    find? key (put key value ms) = some value := by
  fun_induction put key value ms with
  | case1 => rw [find?, if_pos rfl]
  | case2 v ms => rw [find?, if_pos rfl]
  | case3 k v ms hk ih => rw [find?, if_neg hk, ih]

/-- Under another key is what was there. -/
theorem find?_put_ne (h : name ≠ key) (value : Json) (ms : Members) :
    find? name (put key value ms) = find? name ms := by
  fun_induction put key value ms with
  | case1 => exact if_neg h.symm
  | case2 v ms => rw [find?, if_neg h.symm, find?, if_neg h.symm]
  | case3 k v ms hk ih => rw [find?, ih, find?]

/-- To change members changes nothing about which there are. -/
theorem has_update (key name : String) (f : Json → Json) (ms : Members) :
    has name (update key f ms) = has name ms := by
  rw [has, has]
  by_cases h : name = key
  · rw [h, find?_update_self, Option.isSome_map]
  · rw [find?_update_ne h]

/-- An update that leaves the value under its key leaves the object. -/
theorem update_eq_self (h : ∀ v, find? key ms = some v → f v = v) : update key f ms = ms := by
  fun_induction update key f ms with
  | case1 => rfl
  | case2 v ms => rw [h v (if_pos rfl)]
  | case3 k v ms hk ih =>
    rw [ih fun w hw => h w ?_]
    rw [find?, if_neg hk]
    exact hw

/-- Updates under different keys may change places. -/
theorem update_comm (h : key ≠ name) (f g : Json → Json) (ms : Members) :
    update key f (update name g ms) = update name g (update key f ms) := by
  induction ms with
  | nil => rfl
  | cons m ms ih =>
    by_cases hkey : m.1 = key
    · have hname : m.1 ≠ name := fun heq => h (hkey.symm.trans heq)
      simp [update, hkey, h]
    · by_cases hname : m.1 = name
      · simp [update, hname, h.symm]
      · simp [update, hkey, hname, ih]

/-- So may a value that is put in, and an update under another key. -/
theorem put_update_comm (h : key ≠ name) (value : Json) (f : Json → Json) (ms : Members) :
    put key value (update name f ms) = update name f (put key value ms) := by
  induction ms with
  | nil => simp [put, update, h]
  | cons m ms ih =>
    by_cases hkey : m.1 = key
    · simp [put, update, hkey, h]
    · by_cases hname : m.1 = name
      · simp [put, update, hname, h.symm]
      · simp [put, update, hkey, hname, ih]

/-- An object lacks a key when nothing is read under it. -/
theorem has_eq_false_iff : has key ms = false ↔ find? key ms = none := by
  rw [has, Option.isSome_eq_false_iff, Option.isNone_iff_eq_none]

/-! ### Keys -/

/-- A member is there exactly if its key is among the keys. -/
theorem has_iff : has key ms = true ↔ key ∈ keys ms := by
  rw [has]
  fun_induction find? key ms with
  | case1 => simp [keys]
  | case2 v ms => simp [keys]
  | case3 k v ms hk ih =>
    rw [ih]
    simp [keys, Ne.symm hk]

/-- A member is found under its key when the keys are distinct. -/
theorem find?_of_mem (hnodup : (keys ms).Nodup) (h : (key, value) ∈ ms) :
    find? key ms = some value := by
  induction ms with
  | nil => cases h
  | cons m ms ih =>
    obtain ⟨hfresh, hnodup⟩ := List.nodup_cons.mp hnodup
    rcases List.mem_cons.mp h with rfl | h
    · exact if_pos rfl
    · have hne : m.1 ≠ key := fun heq => hfresh (heq ▸ List.mem_map_of_mem h)
      rw [find?, if_neg hne]
      exact ih hnodup h

/-- What is read under a key is the value of the first member that has it. -/
theorem exists_of_find? (h : find? key ms = some value) :
    ∃ front back, ms = front ++ (key, value) :: back ∧ key ∉ keys front := by
  fun_induction find? key ms with
  | case1 => cases h
  | case2 v ms =>
    cases h
    exact ⟨[], ms, rfl, List.not_mem_nil⟩
  | case3 k v ms hk ih =>
    obtain ⟨front, back, rfl, hfront⟩ := ih h
    refine ⟨(k, v) :: front, back, rfl, ?_⟩
    intro hmem
    rcases List.mem_cons.mp hmem with heq | hmem
    · exact hk heq.symm
    · exact hfront hmem

/-- The member that is found is the first one with its key. -/
theorem find?_append_cons {front : Members} (h : key ∉ keys front) (value : Json)
    (back : Members) : find? key (front ++ (key, value) :: back) = some value := by
  induction front with
  | nil => exact if_pos rfl
  | cons m front ih =>
    rw [keys, List.map_cons, List.mem_cons, not_or] at h
    rw [List.cons_append, find?, if_neg (Ne.symm h.1)]
    exact ih h.2

/-- An update changes the first member that has the key, and keeps what stands around it. -/
theorem update_append_cons {front : Members} (h : key ∉ keys front) (f : Json → Json)
    (value : Json) (back : Members) :
    update key f (front ++ (key, value) :: back) = front ++ (key, f value) :: back := by
  induction front with
  | nil => exact if_pos rfl
  | cons m front ih =>
    rw [keys, List.map_cons, List.mem_cons, not_or] at h
    rw [List.cons_append, update, if_neg (Ne.symm h.1), ih h.2]
    rfl

/-- An update of an object with distinct keys, member by member. -/
theorem update_eq_map (hnodup : (keys ms).Nodup) (key : String) (f : Json → Json) :
    update key f ms = ms.map fun m => (m.1, if m.1 = key then f m.2 else m.2) := by
  fun_induction update key f ms with
  | case1 => rfl
  | case2 v ms =>
    -- No other member has the key.
    have hfresh := (List.nodup_cons.mp hnodup).1
    have hrest : (ms.map fun m => (m.1, if m.1 = key then f m.2 else m.2)) = ms.map id := by
      refine List.map_congr_left fun m hm => ?_
      have hne : m.1 ≠ key := fun heq => hfresh (List.mem_map.mpr ⟨m, hm, heq⟩)
      rw [if_neg hne, id]
    rw [List.map_cons, if_pos rfl, hrest, List.map_id]
  | case3 k v ms hk ih =>
    rw [List.map_cons, if_neg hk, ih (List.nodup_cons.mp hnodup).2]

/-- A new member is put behind the others. -/
theorem put_of_not_mem (h : key ∉ keys ms) (value : Json) :
    put key value ms = ms ++ [(key, value)] := by
  fun_induction put key value ms with
  | case1 => rfl
  | case2 v ms => exact absurd List.mem_cons_self h
  | case3 k v ms hk ih =>
    rw [ih fun hmem => h (List.mem_cons_of_mem _ hmem), List.cons_append]

/-- A member that is there is replaced in its place. -/
theorem put_of_mem (h : key ∈ keys ms) (value : Json) :
    put key value ms = update key (fun _ => value) ms := by
  fun_induction put key value ms with
  | case1 => cases h
  | case2 v ms => rw [update, if_pos rfl]
  | case3 k v ms hk ih =>
    have hmem : key ∈ keys ms := (List.mem_cons.mp h).resolve_left (Ne.symm hk)
    rw [update, if_neg hk, ih hmem]

/-- To change members keeps the keys and their order. -/
theorem keys_update (key : String) (f : Json → Json) (ms : Members) :
    keys (update key f ms) = keys ms := by
  fun_induction update key f ms with
  | case1 => rfl
  | case2 v ms => rfl
  | case3 k v ms hk ih => exact congrArg (k :: ·) ih

/-- To put a member keeps the keys distinct. -/
theorem nodup_keys_put (h : (keys ms).Nodup) (key : String) (value : Json) :
    (keys (put key value ms)).Nodup := by
  by_cases hmem : key ∈ keys ms
  · rw [put_of_mem hmem, keys_update]
    exact h
  · rw [put_of_not_mem hmem, keys, List.map_append]
    refine List.nodup_append.mpr ⟨h, by simp, ?_⟩
    intro a ha b hb hab
    have hkey : a = key := hab.trans (List.mem_singleton.mp hb)
    exact hmem (hkey ▸ ha)

/-- A member after a put is the new one or was there. -/
theorem mem_put {m : String × Json} (h : m ∈ put key value ms) : m = (key, value) ∨ m ∈ ms := by
  fun_induction put key value ms with
  | case1 => exact .inl (List.mem_singleton.mp h)
  | case2 v ms => exact (List.mem_cons.mp h).imp id (List.mem_cons_of_mem _)
  | case3 k v ms hk ih =>
    rcases List.mem_cons.mp h with rfl | h
    · exact .inr List.mem_cons_self
    · exact (ih h).imp id (List.mem_cons_of_mem _)

/-- A member after a change was there, or is a changed one. -/
theorem mem_update {m : String × Json} (h : m ∈ update key f ms) :
    m ∈ ms ∨ ∃ v, (key, v) ∈ ms ∧ m = (key, f v) := by
  fun_induction update key f ms with
  | case1 => cases h
  | case2 v ms =>
    rcases List.mem_cons.mp h with rfl | h
    · exact .inr ⟨v, List.mem_cons_self, rfl⟩
    · exact .inl (List.mem_cons_of_mem _ h)
  | case3 k v ms hk ih =>
    rcases List.mem_cons.mp h with rfl | h
    · exact .inl List.mem_cons_self
    · rcases ih h with h | ⟨v, hv, rfl⟩
      · exact .inl (List.mem_cons_of_mem _ h)
      · exact .inr ⟨v, List.mem_cons_of_mem _ hv, rfl⟩

/-! ### Objects whose values have a property -/

/-- The keys are distinct, and every value satisfies `P`. -/
structure Keyed (P : Json → Prop) (ms : Members) : Prop where
  keys : (keys ms).Nodup
  values : ∀ m ∈ ms, P m.2

namespace Keyed

variable {P Q : Json → Prop}

/-- To put a member with the property keeps the property. -/
theorem put (h : Keyed P ms) (key : String) (hvalue : P value) :
    Keyed P (Members.put key value ms) := by
  refine ⟨nodup_keys_put h.keys key value, fun m hm => ?_⟩
  rcases mem_put hm with rfl | hm
  · exact hvalue
  · exact h.values m hm

/-- To change members in a way that keeps the property keeps it for all. -/
theorem update (h : Keyed P ms) (hf : ∀ v, P v → P (f v)) (key : String) :
    Keyed P (Members.update key f ms) := by
  refine ⟨?_, fun m hm => ?_⟩
  · rw [keys_update]
    exact h.keys
  · rcases mem_update hm with hm | ⟨v, hv, rfl⟩
    · exact h.values m hm
    · exact hf v (h.values _ hv)

/-- Members as written become an object in which a key is once. -/
theorem ofWritten {written : List (String × Json)} (h : ∀ m ∈ written, P m.2) :
    Keyed P (Members.ofWritten written) := by
  -- The members before those at hand are an object of this kind already.
  have hfold (acc : Members) (hacc : Keyed P acc) :
      Keyed P (written.foldl (fun acc m => Members.put m.1 m.2 acc) acc) := by
    induction written generalizing acc with
    | nil => exact hacc
    | cons m written ih =>
      have hm := h m List.mem_cons_self
      exact ih (fun m' hm' => h m' (List.mem_cons_of_mem _ hm')) _ (hacc.put m.1 hm)
  exact hfold [] ⟨List.nodup_nil, nofun⟩

end Keyed

/-- Members that are written under distinct keys are the object. -/
theorem ofWritten_of_nodup (h : (keys ms).Nodup) : ofWritten ms = ms := by
  -- Each member goes behind those before it, because its key is new.
  have hfold (acc : Members) (hacc : (keys (acc ++ ms)).Nodup) :
      ms.foldl (fun acc m => put m.1 m.2 acc) acc = acc ++ ms := by
    induction ms generalizing acc with
    | nil => exact (List.append_nil acc).symm
    | cons m ms ih =>
      have hsplit : acc ++ m :: ms = (acc ++ [m]) ++ ms := List.append_cons acc m ms
      have hnew : m.1 ∉ keys acc := by
        intro hmem
        rw [keys, List.map_append] at hacc
        exact (List.nodup_append.mp hacc).2.2 _ hmem _ List.mem_cons_self rfl
      rw [List.foldl_cons, put_of_not_mem hnew, hsplit]
      rw [hsplit] at hacc
      exact ih (List.nodup_cons.mp h).2 _ hacc
  exact hfold [] h

/-! ### Objects with the same keys -/

/-- The same keys in the same places, and related values under each key. -/
inductive Alike (R : String → Json → Json → Prop) : Members → Members → Prop where
  | nil : Alike R [] []
  | cons {key : String} {value value' : Json} {ms ms' : Members} (h : R key value value')
      (rest : Alike R ms ms') : Alike R ((key, value) :: ms) ((key, value') :: ms')

namespace Alike

variable {R S T : String → Json → Json → Prop} {as bs cs : Members}

/-- Objects that are alike have the same keys in the same order. -/
theorem keys_eq (h : Alike R as bs) : keys bs = keys as := by
  induction h with
  | nil => rfl
  | @cons key _ _ _ _ _ _ ih => exact congrArg (key :: ·) ih

/-- A change of every value leaves an object alike to the old one. -/
theorem of_map {f : String × Json → Json} (h : ∀ m ∈ as, R m.1 m.2 (f m)) :
    Alike R as (as.map fun m => (m.1, f m)) := by
  induction as with
  | nil => exact .nil
  | cons m as ih =>
    have hrest := ih fun m' hm' => h m' (List.mem_cons_of_mem _ hm')
    exact .cons (h m List.mem_cons_self) hrest

/-- An object is alike to itself if every member is related to itself. -/
theorem of_eq (h : ∀ m ∈ as, R m.1 m.2 m.2) : Alike R as as := by
  have hmap := of_map h
  rwa [List.map_id'' fun _ => rfl] at hmap

/-- To change the member under one key leaves an object alike, if keys are distinct: the others
stay. -/
theorem of_update (hnodup : (keys as).Nodup)
    (h : ∀ m ∈ as, R m.1 m.2 (if m.1 = key then f m.2 else m.2)) :
    Alike R as (update key f as) := by
  rw [update_eq_map hnodup]
  exact of_map h

/-- Related objects are equal when related values are. -/
theorem eq (h : Alike R as bs) (hR : ∀ m ∈ as, ∀ value, R m.1 m.2 value → value = m.2) :
    bs = as := by
  induction h with
  | nil => rfl
  | @cons k v v' as bs hv _ ih =>
    have hvalue : v' = v := hR (k, v) List.mem_cons_self v' hv
    rw [hvalue, ih fun m hm => hR m (List.mem_cons_of_mem _ hm)]

/-- Two relations in a row relate the objects at both ends. -/
theorem trans (h : Alike R as bs) (h' : Alike S bs cs)
    (hT : ∀ key x y z, R key x y → S key y z → T key x z) : Alike T as cs := by
  induction h generalizing cs with
  | nil =>
    cases h'
    exact .nil
  | cons hR _ ih =>
    cases h' with
    | cons hS hrest => exact .cons (hT _ _ _ _ hR hS) (ih hrest)

/-- What is related to two objects in a row is two objects in a row. -/
theorem append_left (h : Alike R (as ++ bs) cs) :
    ∃ as' bs', cs = as' ++ bs' ∧ Alike R as as' ∧ Alike R bs bs' := by
  induction as generalizing cs with
  | nil => exact ⟨[], cs, rfl, .nil, h⟩
  | cons m as ih =>
    cases h with
    | cons hm hrest =>
      obtain ⟨as', bs', rfl, has, hbs⟩ := ih hrest
      exact ⟨_ :: as', bs', rfl, .cons hm has, hbs⟩

end Alike

end Members

end Json

end FrameworkUpgrade
