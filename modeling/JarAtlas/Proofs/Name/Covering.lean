/-
Namespaces inside other namespaces.

A prefix covers a text if it ends at a boundary of it: at its end or before a
separator.  What a covered prefix covers is covered, in either spelling of the
names, so a namespace inside another holds no name that the other does not.
-/
import JarAtlas.EntryKind

namespace JarAtlas
namespace Namespace

def IsBoundary (separator : Char) (rest : List Char) : Prop :=
  rest = [] ∨ ∃ later, rest = separator :: later

theorem covers_iff {separator : Char} {front text : List Char} :
    covers separator front text = true ↔
      front = [] ∨ ∃ rest, text = front ++ rest ∧ IsBoundary separator rest := by
  cases front with
  | nil => simp [covers]
  | cons c front =>
      have nonempty : ¬(c :: front = []) := nofun
      rw [covers, List.isEmpty_cons, Bool.false_or, or_iff_right nonempty]
      constructor
      · intro covered
        split at covered
        · next whole =>
            exact ⟨[], afterStart?_eq_some_iff.mp whole, Or.inl rfl⟩
        · next next later found =>
            have same : next = separator := of_decide_eq_true covered
            exact ⟨next :: later, afterStart?_eq_some_iff.mp found, Or.inr ⟨later, by rw [same]⟩⟩
        · cases covered
      · rintro ⟨rest, whole, boundary⟩
        rw [afterStart?_eq_some_iff.mpr whole]
        rcases boundary with rfl | ⟨later, rfl⟩
        · rfl
        · exact decide_eq_true rfl

theorem IsBoundary.append {separator : Char} {rest more : List Char}
    (first : IsBoundary separator rest) (second : IsBoundary separator more) :
    IsBoundary separator (rest ++ more) := by
  rcases first with rfl | ⟨later, rfl⟩
  · exact second
  · exact Or.inr ⟨later ++ more, rfl⟩

theorem covers_trans {separator : Char} {front middle text : List Char}
    (first : covers separator front middle = true)
    (second : covers separator middle text = true) : covers separator front text = true := by
  rw [covers_iff] at first second ⊢
  rcases first with noFront | ⟨rest, rfl, boundary⟩
  · exact Or.inl noFront
  · rcases second with noMiddle | ⟨more, rfl, later⟩
    · exact Or.inl (List.append_eq_nil_iff.mp noMiddle).1
    · exact Or.inr ⟨rest ++ more, List.append_assoc front rest more, boundary.append later⟩

theorem covers_slashed {front name : String}
    (covered : covers '.' front.toList name.toList = true) :
    covers '/' (slashed front).toList (slashed name).toList = true := by
  rw [covers_iff] at covered ⊢
  simp only [slashed, String.toList_map]
  rcases covered with noFront | ⟨rest, whole, boundary⟩
  · exact Or.inl (by rw [noFront, List.map_nil])
  · refine Or.inr ⟨_, by rw [whole, List.map_append], ?_⟩
    rcases boundary with rfl | ⟨later, rfl⟩
    · exact Or.inl rfl
    · exact Or.inr ⟨_, rfl⟩

/-- Whether a namespace lies inside another one, which may be the empty
namespace. -/
def Within (inner outer : Namespace) : Prop :=
  outer.name = "" ∨ outer.contains inner.name = true

section

variable {inner outer : Namespace}

theorem Within.covers (within : inner.Within outer) :
    Namespace.covers '.' outer.name.toList inner.name.toList = true := by
  rcases within with unnamed | covered
  · rw [unnamed]
    rfl
  · exact covered

theorem Within.contains (within : inner.Within outer) {name : String}
    (held : inner.contains name = true) : outer.contains name = true :=
  covers_trans within.covers held

theorem Within.containsPath (within : inner.Within outer) {path : String}
    (held : inner.containsPath path = true) : outer.containsPath path = true :=
  covers_trans (covers_slashed within.covers) held

end

end Namespace

namespace EntryKind

theorem ofName_eq_buildDescriptor_iff {ns : Namespace} {entryName : String} :
    ofName ns entryName = .buildDescriptor ↔
      afterLast '/' entryName.toList = descriptorName := by
  unfold ofName
  dsimp only
  by_cases isDescriptor : afterLast '/' entryName.toList = descriptorName
  · simp only [isDescriptor, if_true]
  · simp only [isDescriptor, if_false, iff_false]
    split
    · nofun
    · split <;> nofun

theorem ofName_eq_classFile_of_containsPath {ns other : Namespace} {entryName : String}
    (keeps : ∀ path, ns.containsPath path = true → other.containsPath path = true)
    (isClass : ofName ns entryName = .classFile) : ofName other entryName = .classFile := by
  unfold ofName at isClass ⊢
  dsimp only at isClass ⊢
  split at isClass
  · cases isClass
  · next notDescriptor =>
      rw [if_neg notDescriptor]
      split at isClass
      · cases isClass
      · next typed =>
          rw [if_neg typed]
          split at isClass
          · next held => rw [if_pos (keeps _ held)]
          · cases isClass

end EntryKind
end JarAtlas
