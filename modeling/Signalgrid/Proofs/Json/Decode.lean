import Signalgrid.Json.Decode

set_option autoImplicit false

namespace Signalgrid

theorem bind_ok {ε α β : Type} {x : Except ε α} {f : α → Except ε β} {b : β}
    (done : (x >>= f) = .ok b) : ∃ a, x = .ok a ∧ f a = .ok b := by
  cases x with
  | error e => cases done
  | ok a => exact ⟨a, rfl, done⟩

theorem map_ok {ε α β : Type} {x : Except ε α} {f : α → β} {b : β} (done : x.map f = .ok b) :
    ∃ a, x = .ok a ∧ f a = b := by
  cases x with
  | error e => cases done
  | ok a => exact ⟨a, rfl, Except.ok.inj done⟩

namespace Decode

theorem splitTag_found {α : Type} {tag : String} {variants : List (String × α)} {s : Source} {a b : α}
    {seen members others : List Json.Member}
    (split : splitTag tag variants s (some a) seen members = .ok (b, others)) : b = a := by
  induction members generalizing seen with
  | nil =>
    cases split
    rfl
  | cons m rest ih =>
    simp only [splitTag] at split
    split at split
    · cases split
    · exact ih split

def byName (ms : List Json.Member) : Given :=
  ⟨fun _ key => ms.lookup key, true, fun _ key => .missingField key⟩

theorem record_ok {α : Type} {name : String} {fields : Fields α} {s : Source} {ms : List Json.Member}
    {a : α} (decoded : record name fields s (.obj ms) = .ok a) : fields.build s (byName ms) = .ok a := by
  simp only [record] at decoded
  split at decoded
  · cases decoded
  · exact decoded

def Filled {β : Type} (d : Decoder β) (s : Source) : Option Json → Option β → Prop
  | none, b | some .null, b => b = none
  | some j, b => ∃ v, d s j = .ok v ∧ b = some v

theorem Filled.cases {β : Type} {d : Decoder β} {s : Source} {o : Option Json} {b : Option β}
    (filled : Filled d s o b) :
    b = none ∧ (o = none ∨ o = some .null) ∨
      ∃ j v, j ≠ .null ∧ o = some j ∧ d s j = .ok v ∧ b = some v := by
  rcases o with _ | j
  · exact .inl ⟨filled, .inl rfl⟩
  · cases j with
    | null => exact .inl ⟨filled, .inr rfl⟩
    | _ =>
      obtain ⟨v, read, same⟩ := filled
      exact .inr ⟨_, v, by simp, rfl, read, same⟩

section

variable {α β : Type} {s : Source} {ms : List Json.Member} {name : String} {d : Decoder β}

theorem Fields.field_ok {f : Fields (β → α)} {absent : Absent β} {a : α}
    (built : (f.field name d absent).build s (byName ms) = .ok a) :
    ∃ h b, f.build s (byName ms) = .ok h ∧ h b = a ∧
      match ms.lookup name with
      | some j => d s j = .ok b
      | none => absentValue (byName ms) f.names.length name absent = .ok b := by
  obtain ⟨h, front, built⟩ := bind_ok built
  refine ⟨h, ?_⟩
  have find : (byName ms).find f.names.length name = ms.lookup name := rfl
  rw [find] at built
  cases found : ms.lookup name with
  | some j =>
    rw [found] at built
    obtain ⟨b, read, same⟩ := bind_ok built
    exact ⟨b, front, Except.ok.inj same, read⟩
  | none =>
    rw [found] at built
    obtain ⟨b, read, same⟩ := bind_ok built
    exact ⟨b, front, Except.ok.inj same, read⟩

theorem Fields.needs_ok {f : Fields (β → α)} {a : α}
    (built : (f.needs name d).build s (byName ms) = .ok a) :
    ∃ h b, f.build s (byName ms) = .ok h ∧ h b = a ∧ ∃ j, ms.lookup name = some j ∧ d s j = .ok b := by
  obtain ⟨h, b, front, same, read⟩ := Fields.field_ok built
  refine ⟨h, b, front, same, ?_⟩
  cases found : ms.lookup name with
  | some j =>
    rw [found] at read
    exact ⟨j, rfl, read⟩
  | none =>
    rw [found] at read
    cases read

theorem Fields.orNone_ok {f : Fields (Option β → α)} {a : α}
    (built : (f.orNone name d).build s (byName ms) = .ok a) :
    ∃ h b, f.build s (byName ms) = .ok h ∧ h b = a ∧ Filled d s (ms.lookup name) b := by
  obtain ⟨h, b, front, same, read⟩ := Fields.field_ok built
  refine ⟨h, b, front, same, ?_⟩
  cases found : ms.lookup name with
  | none =>
    rw [found] at read
    exact (Except.ok.inj read).symm
  | some j =>
    rw [found] at read
    cases j with
    | null => exact (Except.ok.inj read).symm
    | _ =>
      obtain ⟨v, read, same⟩ := map_ok read
      exact ⟨v, read, same.symm⟩

end

theorem string_ok {s : Source} {j : Json} {text : String} : string s j = .ok text ↔ j = .str text := by
  cases j <;> simp [string, textOf, mismatch]

theorem i64_ok {s : Source} {j : Json} {n : Int} (read : i64 s j = .ok n) : j = .int n := by
  unfold i64 integer at read
  split at read
  · split at read
    · cases read
      rfl
    · cases read
  · cases read

theorem variantNamed_ok {α : Type} {variants : List (String × α)} {name : String} {a : α} :
    variantNamed variants name = .ok a ↔ variants.lookup name = some a := by
  unfold variantNamed
  cases variants.lookup name <;> simp

theorem unit_ok {j : Json} {u : Unit} (read : unit .tree j = .ok u) : j = .null := by
  cases j with
  | null => rfl
  | arr items => cases items <;> cases read
  | obj members => cases members <;> cases read
  | _ => cases read

theorem choice_ok {α : Type} {names : List (String × α)} {j : Json} {a : α}
    (read : choice names .tree j = .ok a) :
    ∃ name, names.lookup name = some a ∧ (j = .str name ∨ j = .obj [(name, .null)]) := by
  cases j with
  | str name =>
    obtain ⟨b, named, same⟩ := bind_ok read
    cases same
    exact ⟨name, variantNamed_ok.mp named, .inl rfl⟩
  | obj members =>
    rcases members with _ | ⟨⟨name, j⟩, _ | ⟨other, rest⟩⟩
    · cases read
    · obtain ⟨b, named, same⟩ := bind_ok read
      obtain ⟨_, empty, rfl⟩ := map_ok same
      obtain rfl := unit_ok empty
      exact ⟨name, variantNamed_ok.mp named, .inr rfl⟩
    · cases read
  | _ => cases read

end Decode

end Signalgrid
