import Signalgrid.Json.Basic
import Mathlib.Data.List.Nodup
import Mathlib.Data.List.Permutation
import Mathlib.Data.Option.Defs
import Mathlib.Data.String.Basic
import Mathlib.Tactic.SplitIfs

set_option autoImplicit false

namespace Signalgrid.Json

section

variable {ms ms' : List Member} {key : String}

theorem lookup_member (m : Member) (ms : List Member) (key : String) :
    (m :: ms).lookup key = if key = m.1 then some m.2 else ms.lookup key := by
  obtain ⟨name, j⟩ := m
  by_cases same : key = name
  · simp [same]
  · have apart : (key == name) = false := by simpa using same
    simp [List.lookup_cons, apart, same]

theorem mem_iff_lookup (once : (ms.map Prod.fst).Nodup) (j : Json) :
    (key, j) ∈ ms ↔ ms.lookup key = some j := by
  induction ms with
  | nil => simp
  | cons m rest ih =>
    obtain ⟨name, value⟩ := m
    simp only [List.map_cons, List.nodup_cons] at once
    rw [lookup_member, List.mem_cons]
    by_cases same : key = name
    · subst same
      have elsewhere : (key, j) ∉ rest := fun listed => once.1 (List.mem_map_of_mem listed)
      simp [elsewhere, eq_comm]
    · simp [same, ih once.2]

theorem find?_lookup (ms : List Member) (key : String) :
    (ms.find? fun m => m.1 == key).map Prod.snd = ms.lookup key := by
  induction ms with
  | nil => rfl
  | cons m rest ih =>
    rw [List.find?_cons, lookup_member]
    by_cases same : key = m.1
    · simp [same]
    · have apart : (m.1 == key) = false := by simpa using Ne.symm same
      simpa [apart, same] using ih

theorem get?_obj (once : (ms.map Prod.fst).Nodup) (key : String) :
    (Json.obj ms).get? key = ms.lookup key := by
  have turned : (ms.reverse.map Prod.fst).Nodup := by
    rw [List.map_reverse]
    exact List.nodup_reverse.mpr once
  rw [get?, find?_lookup]
  refine Option.ext fun j => ?_
  rw [← mem_iff_lookup once, ← mem_iff_lookup turned, List.mem_reverse]

theorem lookup_isSome : (ms.lookup key).isSome = true ↔ key ∈ ms.map Prod.fst := by
  simp [List.lookup_isSome_iff]

theorem lookup_absent (absent : key ∉ ms.map Prod.fst) : ms.lookup key = none := by
  rw [← Option.not_isSome_iff_eq_none, lookup_isSome]
  exact absent

theorem lookup_filter (ms : List Member) (key name : String) :
    (ms.filter fun m => m.1 ≠ key).lookup name = if name = key then none else ms.lookup name := by
  induction ms with
  | nil => simp
  | cons m rest ih =>
    rw [List.filter_cons]
    by_cases same : m.1 = key
    · rw [if_neg (by simpa using same), ih, lookup_member, same]
      split_ifs <;> rfl
    · rw [if_pos (by simpa using same), lookup_member, lookup_member, ih]
      by_cases here : name = m.1
      · simp [here, same]
      · simp [here]

theorem lookup_putMember (m : Member) :
    (putMember m ms).lookup key = if key = m.1 then some m.2 else ms.lookup key := by
  induction ms with
  | nil => rw [putMember, lookup_member]
  | cons n rest ih =>
    unfold putMember
    by_cases equal : m.1 = n.1
    · rw [if_pos equal, lookup_member, lookup_member, ← equal]
      split_ifs <;> rfl
    · rw [if_neg equal]
      by_cases before : m.1 < n.1
      · rw [if_pos before, lookup_member]
      · rw [if_neg before, lookup_member, lookup_member, ih]
        by_cases same : key = n.1
        · simp [same, Ne.symm equal]
        · simp [same]

theorem mem_putMember {m n : Member} (listed : n ∈ putMember m ms) : n = m ∨ n ∈ ms := by
  induction ms with
  | nil => simpa [putMember] using listed
  | cons first rest ih =>
    unfold putMember at listed
    split_ifs at listed
    · exact (List.mem_cons.mp listed).imp_right (List.mem_cons_of_mem _)
    · exact List.mem_cons.mp listed
    · rcases List.mem_cons.mp listed with same | later
      · exact .inr (same ▸ List.mem_cons_self)
      · exact (ih later).imp_right (List.mem_cons_of_mem _)

def Rising (ms : List Member) : Prop := ms.Pairwise fun m n => m.1 < n.1

theorem Rising.once (rising : Rising ms) : (ms.map Prod.fst).Nodup :=
  List.pairwise_map.mpr (List.Pairwise.imp (fun before => ne_of_lt before) rising)

theorem Rising.putMember (rising : Rising ms) (m : Member) : Rising (putMember m ms) := by
  induction ms with
  | nil => exact List.pairwise_singleton _ _
  | cons n rest ih =>
    obtain ⟨first, others⟩ := List.pairwise_cons.mp rising
    unfold Json.putMember
    split_ifs with equal before
    · exact List.pairwise_cons.mpr ⟨fun x listed => equal ▸ first x listed, others⟩
    · refine List.pairwise_cons.mpr ⟨fun x listed => ?_, rising⟩
      rcases List.mem_cons.mp listed with rfl | later
      · exact before
      · exact lt_trans before (first x later)
    · refine List.pairwise_cons.mpr ⟨fun x listed => ?_, ih others⟩
      rcases mem_putMember listed with rfl | later
      · exact lt_of_le_of_ne (not_lt.mp before) (Ne.symm equal)
      · exact first x later

theorem Rising.ext (rising : Rising ms) (rising' : Rising ms')
    (found : ∀ key, ms.lookup key = ms'.lookup key) : ms = ms' := by
  have perm : ms.Perm ms' := by
    refine (List.perm_ext_iff_of_nodup (.of_map _ rising.once) (.of_map _ rising'.once)).mpr ?_
    rintro ⟨key, j⟩
    rw [mem_iff_lookup rising.once, mem_iff_lookup rising'.once, found]
  refine List.Perm.eq_of_pairwise ?_ rising rising' perm
  exact fun m n _ _ before after => absurd before (lt_asymm after)

theorem foldl_putMember_rising {sorted : List Member} (rising : Rising sorted) (ms : List Member) :
    Rising (ms.foldl (fun sorted m => Json.putMember m sorted) sorted) := by
  induction ms generalizing sorted with
  | nil => exact rising
  | cons m rest ih => exact ih (rising.putMember m)

theorem sortMembers_rising (ms : List Member) : Rising (sortMembers ms) :=
  foldl_putMember_rising List.Pairwise.nil ms

theorem lookup_foldl_putMember (sorted : List Member) (once : (ms.map Prod.fst).Nodup) :
    (ms.foldl (fun sorted m => putMember m sorted) sorted).lookup key =
      (ms.lookup key).or (sorted.lookup key) := by
  induction ms generalizing sorted with
  | nil => rfl
  | cons m rest ih =>
    simp only [List.map_cons, List.nodup_cons] at once
    rw [List.foldl_cons, ih _ once.2, lookup_putMember, lookup_member]
    by_cases same : key = m.1
    · have later : rest.lookup key = none := lookup_absent (same ▸ once.1)
      simp [same ▸ later, same]
    · simp [same]

theorem lookup_sortMembers (once : (ms.map Prod.fst).Nodup) :
    (sortMembers ms).lookup key = ms.lookup key := by
  rw [sortMembers, lookup_foldl_putMember [] once]
  simp

theorem mem_foldl_putMember {m : Member} {sorted : List Member}
    (listed : m ∈ ms.foldl (fun sorted m => putMember m sorted) sorted) : m ∈ sorted ∨ m ∈ ms := by
  induction ms generalizing sorted with
  | nil => exact .inl listed
  | cons n rest ih =>
    rcases ih listed with earlier | later
    · exact (mem_putMember earlier).elim (fun same => .inr (same ▸ List.mem_cons_self)) .inl
    · exact .inr (List.mem_cons_of_mem _ later)

theorem mem_sortMembers {m : Member} (listed : m ∈ sortMembers ms) : m ∈ ms := by
  simpa using mem_foldl_putMember listed

theorem sortMembers_congr (once : (ms.map Prod.fst).Nodup) (once' : (ms'.map Prod.fst).Nodup)
    (found : ∀ key, ms.lookup key = ms'.lookup key) : sortMembers ms = sortMembers ms' := by
  refine (sortMembers_rising ms).ext (sortMembers_rising ms') fun key => ?_
  rw [lookup_sortMembers once, lookup_sortMembers once', found]

theorem canonicalMembers_keys (ms : List Member) :
    (canonicalMembers ms).map Prod.fst = ms.map Prod.fst := by
  induction ms with
  | nil => rfl
  | cons m rest ih => simp only [canonicalMembers, List.map_cons, ih]

theorem lookup_canonicalMembers (ms : List Member) (key : String) :
    (canonicalMembers ms).lookup key = (ms.lookup key).map canonical := by
  induction ms with
  | nil => rfl
  | cons m rest ih =>
    rw [canonicalMembers, lookup_member, lookup_member, ih]
    split_ifs <;> rfl

end

mutual

def Distinct : Json → Prop
  | .arr items => DistinctItems items
  | .obj members => (members.map Prod.fst).Nodup ∧ DistinctMembers members
  | _ => True

def DistinctItems : List Json → Prop
  | [] => True
  | j :: rest => Distinct j ∧ DistinctItems rest

def DistinctMembers : List Member → Prop
  | [] => True
  | (_, j) :: rest => Distinct j ∧ DistinctMembers rest

end

theorem distinctItems_iff (items : List Json) : DistinctItems items ↔ ∀ j ∈ items, j.Distinct := by
  induction items with
  | nil => simp [DistinctItems]
  | cons j rest ih => simp [DistinctItems, ih]

theorem distinctMembers_iff (ms : List Member) : DistinctMembers ms ↔ ∀ m ∈ ms, m.2.Distinct := by
  induction ms with
  | nil => simp [DistinctMembers]
  | cons m rest ih => simp [DistinctMembers, ih]

mutual

theorem canonical_distinct : ∀ j : Json, j.canonical.Distinct
  | .arr items => canonicalItems_distinct items
  | .obj members => by
      refine ⟨(sortMembers_rising _).once, (distinctMembers_iff _).mpr fun m listed => ?_⟩
      exact (distinctMembers_iff _).mp (canonicalMembers_distinct members) m (mem_sortMembers listed)
  | .null | .bool _ | .int _ | .float _ | .str _ => trivial

theorem canonicalItems_distinct : ∀ items : List Json, DistinctItems (canonicalItems items)
  | [] => trivial
  | j :: rest => ⟨canonical_distinct j, canonicalItems_distinct rest⟩

theorem canonicalMembers_distinct : ∀ ms : List Member, DistinctMembers (canonicalMembers ms)
  | [] => trivial
  | (_, j) :: rest => ⟨canonical_distinct j, canonicalMembers_distinct rest⟩

end

theorem canonicalMembers_fixed {ms : List Member} (fixed : ∀ m ∈ ms, m.2.canonical = m.2) :
    canonicalMembers ms = ms := by
  induction ms with
  | nil => rfl
  | cons m rest ih =>
    rw [canonicalMembers, fixed m List.mem_cons_self, ih fun n listed => fixed n (.tail _ listed)]

mutual

theorem canonical_canonical : ∀ j : Json, j.canonical.canonical = j.canonical
  | .arr items => by
      simp only [canonical, canonicalItems_canonicalItems items]
  | .obj members => by
      have fixed : ∀ m ∈ canonicalMembers members, m.2.canonical = m.2 :=
        canonicalMembers_canonical members
      have rising := sortMembers_rising (canonicalMembers members)
      have same := canonicalMembers_fixed fun m listed => fixed m (mem_sortMembers listed)
      simp only [canonical]
      rw [same]
      exact congrArg _ ((sortMembers_rising _).ext rising fun key => lookup_sortMembers rising.once)
  | .null | .bool _ | .int _ | .float _ | .str _ => rfl

theorem canonicalItems_canonicalItems :
    ∀ items : List Json, canonicalItems (canonicalItems items) = canonicalItems items
  | [] => rfl
  | j :: rest => by
      simp only [canonicalItems, canonical_canonical j, canonicalItems_canonicalItems rest]

theorem canonicalMembers_canonical :
    ∀ ms : List Member, ∀ m ∈ canonicalMembers ms, m.2.canonical = m.2
  | [], _, listed => nomatch listed
  | (_, j) :: rest, m, listed => by
      rcases List.mem_cons.mp listed with rfl | later
      · exact canonical_canonical j
      · exact canonicalMembers_canonical rest m later

end

/-- Each key once, and the members in any order. -/
structure Alike (j k : Json) : Prop where
  distinct : j.Distinct
  same : j.canonical = k.canonical

structure Rearranged (ms ns : List Member) : Prop where
  once : (ms.map Prod.fst).Nodup
  found : ∀ key, Option.Rel Alike (ms.lookup key) (ns.lookup key)

theorem Distinct.alike {j : Json} (distinct : j.Distinct) : j.Alike j := ⟨distinct, rfl⟩

theorem canonical_alike (j : Json) : j.canonical.Alike j := ⟨canonical_distinct j, canonical_canonical j⟩

namespace Alike

variable {j : Json}

theorem null (alike : j.Alike .null) : j = .null := by
  have same := alike.same
  cases j <;> simp_all [canonical]

theorem not_null {k : Json} (alike : j.Alike k) (filled : k ≠ .null) : j ≠ .null := by
  rintro rfl
  have same := alike.same
  cases k <;> simp_all [canonical]

theorem str {s : String} (alike : j.Alike (.str s)) : j = .str s := by
  have same := alike.same
  cases j <;> simp_all [canonical]

theorem int {n : Int} (alike : j.Alike (.int n)) : j = .int n := by
  have same := alike.same
  cases j <;> simp_all [canonical]

theorem float {x : Float} (alike : j.Alike (.float x)) : j = .float x := by
  have same := alike.same
  cases j <;> simp_all [canonical]

theorem items {own items : List Json} (distinct : DistinctItems own)
    (same : canonicalItems own = canonicalItems items) : List.Forall₂ Alike own items := by
  induction own generalizing items with
  | nil =>
    cases items with
    | nil => exact .nil
    | cons k rest => simp [canonicalItems] at same
  | cons j own ih =>
    cases items with
    | nil => simp [canonicalItems] at same
    | cons k rest =>
      simp only [canonicalItems, List.cons.injEq] at same
      exact .cons ⟨distinct.1, same.1⟩ (ih distinct.2 same.2)

theorem arr {items : List Json} (alike : j.Alike (.arr items)) :
    ∃ own, j = .arr own ∧ List.Forall₂ Alike own items := by
  obtain ⟨distinct, same⟩ := alike
  cases j with
  | arr own => exact ⟨own, rfl, Alike.items distinct (Json.arr.inj same)⟩
  | _ => simp [canonical] at same

theorem obj {ms : List Member} (once : (ms.map Prod.fst).Nodup) (alike : j.Alike (.obj ms)) :
    ∃ own, j = .obj own ∧ Rearranged own ms := by
  obtain ⟨distinct, same⟩ := alike
  cases j with
  | obj own =>
    refine ⟨own, rfl, distinct.1, fun key => ?_⟩
    have once' : ((canonicalMembers ms).map Prod.fst).Nodup := by rwa [canonicalMembers_keys]
    have ownOnce : ((canonicalMembers own).map Prod.fst).Nodup := by
      rw [canonicalMembers_keys]
      exact distinct.1
    have found : (own.lookup key).map canonical = (ms.lookup key).map canonical := by
      rw [← lookup_canonicalMembers, ← lookup_canonicalMembers, ← lookup_sortMembers ownOnce,
        ← lookup_sortMembers once', Json.obj.inj same]
    cases here : own.lookup key with
    | none =>
      cases there : ms.lookup key with
      | none => exact .none
      | some k => simp [here, there] at found
    | some j =>
      have listed : (key, j) ∈ own := (mem_iff_lookup distinct.1 j).mpr here
      have sound : j.Distinct := (distinctMembers_iff own).mp distinct.2 (key, j) listed
      cases there : ms.lookup key with
      | none => simp [here, there] at found
      | some k =>
        rw [here, there] at found
        exact .some ⟨sound, Option.some.inj found⟩
  | _ => simp [canonical] at same

end Alike

namespace Rearranged

variable {ms ns : List Member} {key : String} {j k : Json}

theorem lookup_some (own : Rearranged ms ns) (there : ns.lookup key = some k) :
    ∃ j, ms.lookup key = some j ∧ j.Alike k := by
  have found := own.found key
  rw [there] at found
  cases here : ms.lookup key with
  | none =>
    rw [here] at found
    cases found
  | some j =>
    rw [here] at found
    cases found with
    | some alike => exact ⟨j, rfl, alike⟩

theorem lookup_none (own : Rearranged ms ns) (there : ns.lookup key = none) : ms.lookup key = none := by
  have found := own.found key
  rw [there] at found
  cases here : ms.lookup key with
  | none => rfl
  | some j =>
    rw [here] at found
    cases found

theorem lookup_member (own : Rearranged ms ns) (here : ms.lookup key = some j) :
    ∃ k, ns.lookup key = some k ∧ j.Alike k := by
  have found := own.found key
  rw [here] at found
  cases there : ns.lookup key with
  | none =>
    rw [there] at found
    cases found
  | some k =>
    rw [there] at found
    cases found with
    | some alike => exact ⟨k, rfl, alike⟩

theorem alike (own : Rearranged ms ns) (once : (ns.map Prod.fst).Nodup) :
    (Json.obj ms).Alike (.obj ns) := by
  have sound : ∀ m ∈ ms, m.2.Distinct := by
    rintro ⟨key, j⟩ listed
    obtain ⟨k, _, alike⟩ := own.lookup_member ((mem_iff_lookup own.once j).mp listed)
    exact alike.distinct
  have found : ∀ key, (canonicalMembers ms).lookup key = (canonicalMembers ns).lookup key := by
    intro key
    rw [lookup_canonicalMembers, lookup_canonicalMembers]
    cases there : ns.lookup key with
    | none => rw [own.lookup_none there]
    | some k =>
      obtain ⟨j, here, alike⟩ := own.lookup_some there
      rw [here, Option.map_some, Option.map_some, alike.same]
  refine ⟨⟨own.once, (distinctMembers_iff ms).mpr sound⟩, congrArg Json.obj ?_⟩
  refine sortMembers_congr ?_ ?_ found
  · rw [canonicalMembers_keys]
    exact own.once
  · rw [canonicalMembers_keys]
    exact once

theorem perm (own : Rearranged ms ns) (once : (ns.map Prod.fst).Nodup) :
    ∃ ps, ms.Perm ps ∧ List.Forall₂ (fun m n => m.1 = n.1 ∧ m.2.Alike n.2) ps ns := by
  let placed (n : Member) : Member := (n.1, (ms.lookup n.1).getD .null)
  have keys : (ns.map placed).map Prod.fst = ns.map Prod.fst := by simp [placed]
  have found : ∀ n ∈ ns, ∃ j, ms.lookup n.1 = some j ∧ j.Alike n.2 := by
    rintro ⟨key, k⟩ listed
    exact own.lookup_some ((mem_iff_lookup once k).mp listed)
  refine ⟨ns.map placed, ?_, ?_⟩
  · refine (List.perm_ext_iff_of_nodup (.of_map _ own.once) (.of_map _ (keys ▸ once))).mpr ?_
    rintro ⟨key, j⟩
    rw [mem_iff_lookup own.once, List.mem_map]
    constructor
    · intro here
      obtain ⟨k, there, _⟩ := own.lookup_member here
      exact ⟨(key, k), (mem_iff_lookup once k).mpr there, by simp [placed, here]⟩
    · rintro ⟨n, listed, same⟩
      obtain ⟨j', here, _⟩ := found n listed
      simp only [placed, here, Option.getD_some, Prod.mk.injEq] at same
      rw [← same.1, here, same.2]
  · rw [List.forall₂_map_left_iff, List.forall₂_same]
    intro n listed
    obtain ⟨j, here, alike⟩ := found n listed
    exact ⟨rfl, by simpa [placed, here] using alike⟩

theorem single (own : Rearranged ms [(key, k)]) : ∃ j, ms = [(key, j)] ∧ j.Alike k := by
  obtain ⟨ps, perm, beside⟩ := own.perm (by simp)
  obtain ⟨⟨_, j⟩, _, ⟨rfl, alike⟩, none, rfl⟩ := List.forall₂_cons_right_iff.mp beside
  cases none
  exact ⟨j, List.perm_singleton.mp perm, alike⟩

theorem pair {key' : String} {k' : Json} (own : Rearranged ms [(key, k), (key', k')])
    (apart : key ≠ key') :
    ∃ j j', (ms = [(key, j), (key', j')] ∨ ms = [(key', j'), (key, j)]) ∧ j.Alike k ∧ j'.Alike k' := by
  obtain ⟨ps, perm, beside⟩ := own.perm (by simpa using apart)
  obtain ⟨⟨_, j⟩, _, ⟨rfl, alike⟩, rest, rfl⟩ := List.forall₂_cons_right_iff.mp beside
  obtain ⟨⟨_, j'⟩, _, ⟨rfl, alike'⟩, none, rfl⟩ := List.forall₂_cons_right_iff.mp rest
  cases none
  exact ⟨j, j', List.perm_pair.mp perm, alike, alike'⟩

theorem without (own : Rearranged ms ((key, k) :: ns)) (absent : key ∉ ns.map Prod.fst) :
    Rearranged (ms.filter fun m => m.1 ≠ key) ns := by
  refine ⟨own.once.sublist (List.filter_sublist.map _), fun name => ?_⟩
  rw [lookup_filter]
  split_ifs with same
  · rw [same, lookup_absent absent]
    exact .none
  · have found := own.found name
    rwa [Json.lookup_member, if_neg same] at found

end Rearranged

end Signalgrid.Json
