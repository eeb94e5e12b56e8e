import Signalgrid.Proofs.Json.Canonical
import Signalgrid.Proofs.Json.Decode

set_option autoImplicit false

namespace Signalgrid

open Decode Json

/-- From every source, in whatever order the members stand. -/
structure Decoder.Reads {α : Type} (d : Decoder α) (j : Json) (a : α) : Prop where
  distinct : j.Distinct
  reads : ∀ s k, k.Alike j → d s k = .ok a

structure Decode.Fields.Reads {α : Type} (f : Fields α) (ms : List Member) (a : α) : Prop where
  distinct : ∀ p ∈ f.names, ∀ j, ms.lookup p.1 = some j → j.Distinct
  built : ∀ s own fault, Rearranged own ms →
    f.build s ⟨fun _ key => own.lookup key, true, fault⟩ = .ok a
  sound : ∀ s own, Rearranged own ms → ∀ p ∈ f.names, ∀ j, own.lookup p.1 = some j → p.2 s j = none

namespace Decode

section

variable {α β : Type} {ms : List Member} {j : Json}

theorem Fields.Reads.of (a : α) (ms : List Member) : (Fields.of a).Reads ms a where
  distinct := fun _ listed => nomatch listed
  built := fun _ _ _ _ => rfl
  sound := fun _ _ _ _ listed => nomatch listed

theorem Fields.Reads.field {f : Fields (β → α)} {g : β → α} {name : String} {d : Decoder β} {b : β}
    (front : f.Reads ms g) (absent : Absent β) (found : ms.lookup name = some j) (reads : d.Reads j b) :
    (f.field name d absent).Reads ms (g b) where
  distinct := by
    intro p listed k there
    rcases List.mem_append.mp listed with earlier | last
    · exact front.distinct p earlier k there
    · obtain rfl := List.mem_singleton.mp last
      obtain rfl := Option.some.inj (found.symm.trans there)
      exact reads.distinct
  built := by
    intro s own fault order
    obtain ⟨k, here, alike⟩ := order.lookup_some found
    simp only [Fields.field, front.built s own fault order, here, reads.reads s k alike, bind, Except.bind]
  sound := by
    intro s own order p listed k here
    rcases List.mem_append.mp listed with earlier | last
    · exact front.sound s own order p earlier k here
    · obtain rfl := List.mem_singleton.mp last
      obtain ⟨k', here', alike⟩ := order.lookup_some found
      obtain rfl := Option.some.inj (here'.symm.trans here)
      simp only [faultOf, reads.reads s k' alike]

end

theorem memberFault_none {names : List (String × (Source → Json → Option DecodeFault))} {s : Source}
    {seen : List String} {ms : List Member} (once : (ms.map Prod.fst).Nodup)
    (new : ∀ key ∈ ms.map Prod.fst, key ∉ seen)
    (sound : ∀ p ∈ names, ∀ m ∈ ms, m.1 = p.1 → p.2 s m.2 = none) : memberFault names s seen ms = none := by
  induction ms generalizing seen with
  | nil => rfl
  | cons m rest ih =>
    obtain ⟨key, j⟩ := m
    simp only [List.map_cons, List.nodup_cons, List.mem_cons, forall_eq_or_imp] at once new sound
    have later : ∀ p ∈ names, ∀ m ∈ rest, m.1 = p.1 → p.2 s m.2 = none := fun p listed => (sound p listed).2
    rw [memberFault]
    split
    next => exact ih once.2 new.2 later
    next check named =>
      obtain ⟨front, back, split, _⟩ := List.lookup_eq_some_iff.mp named
      have listed : (key, check) ∈ names := by simp [split]
      have clean : check s j = none := (sound _ listed).1 rfl
      rw [if_neg new.1, clean]
      refine ih once.2 (fun name member => ?_) later
      simp only [List.mem_cons, not_or]
      exact ⟨fun same => once.1 (same ▸ member), new.2 name member⟩

theorem splitTag_found_none {α : Type} {tag name : String} {variants : List (String × α)} {s : Source}
    {a : α} {seen ms : List Member} (once : (ms.map Prod.fst).Nodup)
    (found : ms.lookup tag = some (.str name)) (named : variants.lookup name = some a) :
    splitTag tag variants s none seen ms = .ok (a, seen.reverse ++ ms.filter fun m => m.1 ≠ tag) := by
  have rest_kept : ∀ (rest : List Member) (seen : List Member), tag ∉ rest.map Prod.fst →
      splitTag tag variants s (some a) seen rest = .ok (a, seen.reverse ++ rest.filter fun m => m.1 ≠ tag) := by
    intro rest
    induction rest with
    | nil => simp [splitTag]
    | cons m rest ih =>
      intro seen absent
      simp only [List.map_cons, List.mem_cons, not_or] at absent
      rw [splitTag, if_neg (Ne.symm absent.1), ih _ absent.2]
      simp [Ne.symm absent.1]
  induction ms generalizing seen with
  | nil => cases found
  | cons m rest ih =>
    obtain ⟨key, j⟩ := m
    simp only [List.map_cons, List.nodup_cons] at once
    rw [lookup_member] at found
    by_cases here : tag = key
    · subst here
      rw [if_pos rfl] at found
      obtain rfl := Option.some.inj found
      simp [splitTag, tagName, variantNamed, named, bind, Except.bind, rest_kept rest seen once.1]
    · rw [if_neg here] at found
      rw [splitTag, if_neg (Ne.symm here), ih once.2 found]
      simp [Ne.symm here]

end Decode

namespace Decoder.Reads

variable {α β : Type} {d : Decoder α} {j : Json} {a : α}

theorem exact (reads : d.Reads j a) (s : Source) : d s j = .ok a := reads.reads s j reads.distinct.alike

theorem canonical (reads : d.Reads j a) (s : Source) : d s j.canonical = .ok a :=
  reads.reads s _ (canonical_alike j)

theorem ofText {cs : List Char} (reads : d.Reads j a) (text : Json.read cs = some j) :
    d.ofText cs = .ok a := by
  rw [Decoder.ofText, text]
  exact congrArg (Except.mapError ReadFault.malformed) (reads.exact .text)

theorem string (s : String) : Decode.string.Reads (.str s) s where
  distinct := trivial
  reads := by
    intro source k alike
    rw [alike.str]
    rfl

theorem number (x : Float) : Decode.number.Reads (.float x) x where
  distinct := trivial
  reads := by
    intro source k alike
    rw [alike.float]
    rfl

theorem finite {x : Float} (finite : x.isFinite = true) : Decode.number.Reads (.ofFloat x) x := by
  rw [Json.ofFloat, if_pos finite]
  exact number x

theorem unsigned {high n : Nat} (name : String) (small : n < high) :
    (Decode.unsigned high name).Reads (.nat n) n where
  distinct := trivial
  reads := by
    intro source k alike
    have within : (0 : Int) ≤ n ∧ (n : Int) < high := by omega
    rw [alike.int]
    simp [Decode.unsigned, integer, within, Except.map]

theorem tree {m : Json} (fixed : m.canonical = m) : Decode.tree.Reads m m where
  distinct := fixed ▸ canonical_distinct m
  reads := by
    intro source k alike
    rw [Decode.tree, alike.same, fixed]

theorem choice {names : List (String × α)} {name : String} (named : names.lookup name = some a) :
    (Decode.choice names).Reads (.str name) a where
  distinct := trivial
  reads := by
    intro source k alike
    rw [alike.str]
    simp [Decode.choice, variant, variantNamed, named, bind, Except.bind]

theorem option {f : α → Json} {o : Option α} (each : ∀ a ∈ o, d.Reads (f a) a)
    (filled : ∀ a ∈ o, f a ≠ .null) : (Decode.option d).Reads (ofOption f o) o := by
  cases o with
  | none =>
    refine ⟨trivial, fun source k alike => ?_⟩
    rw [alike.null]
    rfl
  | some a =>
    have reads := each a rfl
    refine ⟨reads.distinct, fun source k alike => ?_⟩
    have other : Decode.option d source k = (d source k).map some := by
      cases k with
      | null => exact absurd rfl (alike.not_null (filled a rfl))
      | _ => rfl
    rw [other, reads.reads source k alike]
    rfl

theorem optionString (o : Option String) : (Decode.option Decode.string).Reads (ofOption .str o) o :=
  option (fun text _ => string text) fun _ _ => nofun

theorem items {f : α → Json} {as : List α} {source : Source} {own : List Json}
    (each : ∀ a ∈ as, d.Reads (f a) a) (beside : List.Forall₂ Alike own (as.map f)) :
    own.mapM (d source) = .ok as := by
  induction as generalizing own with
  | nil =>
    cases beside
    rfl
  | cons a rest ih =>
    obtain ⟨k, ks, alike, others, rfl⟩ := List.forall₂_cons_right_iff.mp beside
    have first := (each a List.mem_cons_self).reads source k alike
    have later := ih (fun b member => each b (.tail _ member)) others
    simp [first, later, bind, Except.bind, pure, Except.pure]

theorem list {f : α → Json} {as : List α} (each : ∀ a ∈ as, d.Reads (f a) a) :
    (Decode.list d).Reads (.arr (as.map f)) as where
  distinct := by
    refine (distinctItems_iff _).mpr fun k listed => ?_
    obtain ⟨a, member, rfl⟩ := List.mem_map.mp listed
    exact (each a member).distinct
  reads := by
    intro source k alike
    obtain ⟨own, rfl, beside⟩ := alike.arr
    exact items each beside

theorem map (f : α → β) (reads : d.Reads j a) :
    Decoder.Reads (fun s k => (d s k).map f) j (f a) where
  distinct := reads.distinct
  reads := by
    intro source k alike
    simp only [reads.reads source k alike, Except.map]

theorem record {name : String} {fields : Fields α} {ms : List Member}
    (distinct : (fields.names.map Prod.fst).Nodup) (keys : ms.map Prod.fst = fields.names.map Prod.fst)
    (reads : fields.Reads ms a) : (Decode.record name fields).Reads (.obj ms) a where
  distinct := by
    have once : (ms.map Prod.fst).Nodup := keys ▸ distinct
    refine ⟨once, (distinctMembers_iff ms).mpr fun m listed => ?_⟩
    have named : m.1 ∈ fields.names.map Prod.fst := keys ▸ List.mem_map_of_mem listed
    obtain ⟨p, field, same⟩ := List.mem_map.mp named
    exact reads.distinct p field m.2 ((mem_iff_lookup once m.2).mp (same ▸ listed))
  reads := by
    intro source k alike
    have once : (ms.map Prod.fst).Nodup := keys ▸ distinct
    obtain ⟨own, rfl, order⟩ := alike.obj once
    have clean : memberFault fields.names source [] own = none := by
      refine memberFault_none order.once (fun key _ => List.not_mem_nil) fun p field m listed same => ?_
      exact reads.sound source own order p field m.2 ((mem_iff_lookup order.once m.2).mp (same ▸ listed))
    simp only [Decode.record, clean, reads.built source own _ order]

theorem nothing (a : α) : (Decode.nothing a).Reads (.obj []) a where
  distinct := ⟨List.nodup_nil, trivial⟩
  reads := by
    intro source k alike
    have once : (([] : List Member).map Prod.fst).Nodup := List.nodup_nil
    obtain ⟨own, rfl, _⟩ := alike.obj once
    rfl

theorem tagged {tag title name : String} {variants : List (String × Decoder α)} {ms : List Member}
    (named : variants.lookup name = some d) (absent : tag ∉ ms.map Prod.fst) (reads : d.Reads (.obj ms) a) :
    (Decode.tagged tag title variants).Reads (.obj ((tag, .str name) :: ms)) a where
  distinct := ⟨List.nodup_cons.mpr ⟨absent, reads.distinct.1⟩, trivial, reads.distinct.2⟩
  reads := by
    intro source k alike
    have once : (((tag, Json.str name) :: ms).map Prod.fst).Nodup :=
      List.nodup_cons.mpr ⟨absent, reads.distinct.1⟩
    have here : ((tag, Json.str name) :: ms).lookup tag = some (.str name) := by
      rw [lookup_member, if_pos rfl]
    obtain ⟨own, rfl, order⟩ := alike.obj once
    obtain ⟨t, found, tagAlike⟩ := order.lookup_some here
    rw [tagAlike.str] at found
    have others := (order.without absent).alike reads.distinct.1
    simp only [Decode.tagged, splitTag_found_none order.once found named, bind, Except.bind]
    exact reads.reads .aside _ others

theorem adjacent {tag content title name : String} {variants : List (String × Content α)} {c : Content α}
    (named : variants.lookup name = some c) (apart : tag ≠ content)
    (reads : Decoder.Reads c.decode j a) :
    (Decode.adjacent tag content title variants).Reads (.obj [(tag, .str name), (content, j)]) a where
  distinct := ⟨by simpa using apart, trivial, reads.distinct, trivial⟩
  reads := by
    intro source whole told
    obtain ⟨own, rfl, order⟩ := told.obj (by simpa using apart)
    obtain ⟨t, k, placed, tagAlike, alike⟩ := order.pair apart
    obtain rfl := tagAlike.str
    have chosen : pairName variants source (.str name) = .ok c := (choice named).exact source
    rcases placed with rfl | rfl
    · simp [Decode.adjacent, chosen, Ne.symm apart, reads.reads source k alike, bind, Except.bind]
    · simp [Decode.adjacent, chosen, Ne.symm apart, reads.reads .aside k alike, bind, Except.bind]

theorem variant {names : List (String × α)} {name : String} {bare : α → Except DecodeFault β}
    {holding : Source → α → Json → Except DecodeFault β} {b : β} (named : names.lookup name = some a)
    (reads : Decoder.Reads (fun s => holding s a) j b) :
    (Decode.variant names bare holding).Reads (.obj [(name, j)]) b where
  distinct := ⟨by simp, reads.distinct, trivial⟩
  reads := by
    intro source whole told
    obtain ⟨own, rfl, order⟩ := told.obj (by simp)
    obtain ⟨k, rfl, alike⟩ := order.single
    cases source <;>
      simp [Decode.variant, variantNamed, named, reads.reads _ k alike, bind, Except.bind]

end Decoder.Reads

end Signalgrid
