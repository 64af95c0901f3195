import Stencil.Proofs.Dependence
import Stencil.Proofs.Operation

/-! # What a rendering needs of its data

Data with more fields is as good as the data that it extends, and fields whose names do not occur
in a template make no difference to it.
-/

namespace Stencil

theorem renderNodes_follows {mend : Prop} {nodes : List Node} {data data' : Value}
    (h : Env.FollowedBy data.fields mend (Node.namesAll nodes) data'.fields) :
    Follows mend Eq (renderNodes nodes data) (renderNodes nodes data') :=
  (Node.renderAll_follows nodes h (List.Subset.refl _)).map fun _ _ hab => hab.text

/-- What is defined keeps its value in an object with more fields. -/
theorem Env.followedBy_of_extended {fields fields' : List (String × Value)}
    (h : ∀ key v, fields.lookup key = some v → fields'.lookup key = some v)
    (names : List String) : FollowedBy fields True names fields' := by
  intro name _
  cases hlookup : fields.lookup name with
  | none =>
      simp only [get, hlookup]
      exact .mended trivial _ _
  | some v =>
      simp only [get, hlookup, h name v hlookup]
      exact .ok rfl

/-- A rendering that succeeds gives the same text with any object that has the same fields and
possibly more. -/
theorem render_extended {fields fields' : List (String × Value)}
    (h : ∀ key v, fields.lookup key = some v → fields'.lookup key = some v) :
    (∀ nodes cs, renderNodes nodes (.object fields) = .ok cs →
      renderNodes nodes (.object fields') = .ok cs) ∧
    ∀ (e : Engine) source cs, (e.render source (.object fields)).result = .ok cs →
      (e.render source (.object fields')).result = .ok cs := by
  have hnodes : ∀ nodes cs, renderNodes nodes (.object fields) = .ok cs →
      renderNodes nodes (.object fields') = .ok cs := by
    intro nodes cs
    apply Follows.eq_ok
    exact renderNodes_follows (Env.followedBy_of_extended h _)
  refine ⟨hnodes, ?_⟩
  intro e source cs hrender
  obtain ⟨template, htemplate, htext⟩ := Engine.render_eq_ok_iff.mp hrender
  exact Engine.render_eq_ok_iff.mpr ⟨template, htemplate, hnodes _ _ htext⟩

/-- A field that is new shows in an operand that is skipped, and a binding hides it. -/
theorem render_extended_hidden :
    let fields := [("a", Value.string "x")]
    let fields' := [("a", Value.string "x"), ("b", Value.null)]
    let nodes : List Node :=
      [.output ⟨.logical .or (.name "a") (.member (.name "b") "c"), []⟩, .bind "b" (.name "a"),
        .each (.name "b") [.output ⟨.name "b", []⟩]]
    (∀ key v, fields.lookup key = some v → fields'.lookup key = some v) ∧
      renderNodes nodes (.object fields) = .ok "xx".toList ∧
      renderNodes nodes (.object fields') = .ok "xx".toList := by
  intro fields fields' nodes
  have h : ∀ key v, fields.lookup key = some v → fields'.lookup key = some v := by
    intro key v hkey
    simp only [fields, fields', Env.lookup_cons_eq_ite] at hkey ⊢
    by_cases ha : key = "a"
    · rwa [if_pos ha] at hkey ⊢
    · rw [if_neg ha] at hkey
      exact nomatch hkey
  have hrender : renderNodes nodes (.object fields) = .ok "xx".toList := by rfl
  exact ⟨h, hrender, (render_extended h).1 nodes _ hrender⟩

/-- Rendering reads only the fields whose names occur in an expression of the template: data that
agree on these give the same text or the same fault. Data that is no object has no fields. -/
theorem renderNodes_eq_of_names {nodes : List Node} {data data' : Value}
    (h : ∀ name ∈ Node.namesAll nodes, data.fields.lookup name = data'.fields.lookup name) :
    renderNodes nodes data = renderNodes nodes data' := by
  apply Follows.eq
  apply renderNodes_follows
  intro name hname
  rw [Env.get_eq_of_lookup (h name hname)]
  exact .same _

/-- An object of which no field is read, and data that is no object. -/
theorem renderNodes_eq_of_names_undefined :
    let nodes : List Node :=
      [.bind "x" (.literal (.string "v")), .output ⟨.name "x", []⟩, .output ⟨.name "y", []⟩]
    let data := Value.object [("key", .string "k"), ("v", .null)]
    (∀ name ∈ Node.namesAll nodes, data.fields.lookup name = Value.null.fields.lookup name) ∧
      renderNodes nodes data = renderNodes nodes .null ∧
      renderNodes nodes data = .error (.undefined "y") := by
  intro nodes data
  have h : ∀ name ∈ Node.namesAll nodes,
      data.fields.lookup name = Value.null.fields.lookup name := by
    intro name hname
    rcases List.mem_cons.mp hname with rfl | hname
    · rfl
    · cases List.mem_singleton.mp hname
      rfl
  exact ⟨h, renderNodes_eq_of_names h, rfl⟩

end Stencil
