import ContainerFleet.Json.Basic

/-!
When two JSON values are the same although the fields of their objects stand in different orders.
Main statements: `Same.symm`, `Same.trans`, and `same_obj_iff`, that objects are the same when they
lead to the same by every name.
-/

namespace ContainerFleet.Json

/-- Equal up to the order of the fields in objects, at every depth. -/
inductive Same : Json → Json → Prop
  | refl (v : Json) : Same v v
  | arr {vs ws : List Json} (hlength : vs.length = ws.length)
      (hitems : ∀ (i : Nat) v w, vs[i]? = some v → ws[i]? = some w → Same v w) :
      Same (.arr vs) (.arr ws)
  | obj {fs gs : Map String Json}
      (hnames : ∀ name, (Map.get? fs name).isSome = (Map.get? gs name).isSome)
      (hfields : ∀ name v w, Map.get? fs name = some v → Map.get? gs name = some w → Same v w) :
      Same (.obj fs) (.obj gs)

namespace Same

variable {u v w : Json} {s : String}

theorem symm (h : Same v w) : Same w v := by
  induction h with
  | refl v => exact .refl v
  | arr hlength _ ih => exact .arr hlength.symm fun i w v hw hv => ih i v w hv hw
  | obj hnames _ ih =>
      exact .obj (fun name => (hnames name).symm) fun name w v hw hv => ih name v w hv hw

theorem trans (huv : Same u v) (hvw : Same v w) : Same u w := by
  induction huv generalizing w with
  | refl u => exact hvw
  | arr hlength hitems ih =>
      cases hvw with
      | refl => exact .arr hlength hitems
      | arr hlength' hitems' =>
          refine .arr (hlength.trans hlength') fun i u w hu hw => ?_
          obtain ⟨hi, -⟩ := List.getElem?_eq_some_iff.1 hu
          have hv := List.getElem?_eq_getElem (hlength ▸ hi)
          exact ih i u _ hu hv (hitems' i _ w hv hw)
  | obj hnames hfields ih =>
      cases hvw with
      | refl => exact .obj hnames hfields
      | obj hnames' hfields' =>
          refine .obj (fun name => (hnames name).trans (hnames' name)) fun name u w hu hw => ?_
          obtain ⟨v, hv⟩ := Option.isSome_iff_exists.1 ((hnames name).symm.trans (by simp [hu]))
          exact ih name u v hu hv (hfields' name v w hv hw)

/-- Only a text is the same as a text, and it is that text. -/
theorem eq_str (h : Same v (.str s)) : v = .str s := by
  cases h
  rfl

end Same

/-- Either both are missing or both are there and the same. -/
abbrev SameOption : Option Json → Option Json → Prop :=
  Option.Rel Same

namespace SameOption

variable {a b c : Option Json}

theorem refl (a : Option Json) : SameOption a a := by
  cases a with
  | none => exact .none
  | some v => exact .some (.refl v)

theorem of_eq (h : a = b) : SameOption a b :=
  h ▸ refl a

end SameOption

theorem sameOption_iff {a b : Option Json} :
    SameOption a b ↔ a.isSome = b.isSome ∧ ∀ v w, a = some v → b = some w → Same v w := by
  cases a <;> cases b <;> simp [SameOption]

theorem same_obj_iff {fs gs : Map String Json} :
    Same (.obj fs) (.obj gs) ↔ ∀ name, SameOption (Map.get? fs name) (Map.get? gs name) := by
  constructor
  · intro h name
    cases h with
    | refl => exact .refl _
    | obj hnames hfields => exact sameOption_iff.2 ⟨hnames name, hfields name⟩
  · intro h
    exact .obj (fun name => (sameOption_iff.1 (h name)).1) fun name => (sameOption_iff.1 (h name)).2

end ContainerFleet.Json
