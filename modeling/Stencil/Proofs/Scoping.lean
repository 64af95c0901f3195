import Stencil.Proofs.Dependence

/-! # Scopes

Rendering reads names only through their values, so environments in which all names have the same
values are interchangeable. A round of a loop is therefore rendered like its body with data that
has the names of the round as fields, and nothing that a round binds is seen outside of it.
-/

namespace Stencil

/-- All names have the same values. -/
def Env.Agrees (env env' : Env) : Prop := ∀ name, env.lookup name = env'.lookup name

theorem Env.Agrees.followedBy {env env' : Env} (h : env.Agrees env') (mend : Prop)
    (names : List String) : env.FollowedBy mend names env' := by
  intro name _
  rw [get_eq_of_lookup (h name)]
  exact .same _

/-- Nodes have the same text in environments in which all names have the same values. -/
theorem Node.text_renderAll_eq_of_agrees {env env' : Env} (h : env.Agrees env')
    (nodes : List Node) :
    (renderAll env nodes).map (·.1) = (renderAll env' nodes).map (·.1) := by
  apply Follows.eq
  have hnodes := renderAll_follows nodes (h.followedBy False _) (List.Subset.refl _)
  exact hnodes.map fun _ _ hab => hab.text

/-! ## Rounds of a loop -/

namespace Value

/-- Sets a field of an object; other data has no fields. -/
def set (data : Value) (key : String) (v : Value) : Value :=
  match data with
  | object fields => object (insertField key v fields)
  | _ => data

/-- The data of a round of a loop: the names of the round are set as fields. -/
def inRound (data : Value) (item : Value) (index count : Nat) : Value :=
  ((data.set "len" (.int count)).set "index" (.int index)).set "item" item

theorem lookup_insertField (key name : String) (v : Value) (fields : List (String × Value)) :
    (insertField key v fields).lookup name =
      if name = key then some v else fields.lookup name := by
  induction fields with
  | nil => exact Env.lookup_cons_eq_ite name key v []
  | cons field fields ih =>
      obtain ⟨other, w⟩ := field
      unfold insertField
      split
      next => exact Env.lookup_cons_eq_ite name key v _
      next =>
        split
        next heq =>
          subst heq
          rw [Env.lookup_cons_eq_ite, Env.lookup_cons_eq_ite]
          split
          next => rfl
          next => rfl
        next hne =>
          rw [Env.lookup_cons_eq_ite, Env.lookup_cons_eq_ite, ih]
          by_cases hname : name = other
          · have hkey : name ≠ key := fun heq => hne (heq.symm.trans hname)
            rw [if_pos hname, if_neg hkey, if_pos hname]
          · rw [if_neg hname, if_neg hname]

/-- The names of a round have the same values as bindings and as fields. -/
theorem agrees_inRound (fields : List (String × Value)) (item : Value) (index count : Nat) :
    Env.Agrees (Env.enter fields item index count)
      ((object fields).inRound item index count).fields := by
  intro name
  simp only [inRound, set, Value.fields, Env.enter, lookup_insertField, Env.lookup_cons_eq_ite]

end Value

/-- The rounds of a loop are rendered like its body with the data of each round. -/
theorem renderRounds_eq_mapM (body : List Node) (fields : List (String × Value))
    (count index : Nat) (items : List Value) :
    renderRounds (fun env => (Node.renderAll env body).map (·.1)) fields count index items =
      ((items.zipIdx index).mapM fun round =>
        renderNodes body ((Value.object fields).inRound round.1 round.2 count)).map
          List.flatten := by
  induction items generalizing index with
  | nil => rfl
  | cons item items ih =>
      have hround : (Node.renderAll (Env.enter fields item index count) body).map (·.1) =
          renderNodes body ((Value.object fields).inRound item index count) :=
        Node.text_renderAll_eq_of_agrees (Value.agrees_inRound fields item index count) body
      rw [renderRounds, hround, ih, List.zipIdx_cons, List.mapM_cons]
      cases renderNodes body ((Value.object fields).inRound item index count) with
      | error e => rfl
      | ok first =>
          cases (items.zipIdx (index + 1)).mapM fun round =>
              renderNodes body ((Value.object fields).inRound round.1 round.2 count) with
          | error e => rfl
          | ok others => rfl

/-- What a value is looped over: the elements of an array, or the characters of a string. -/
inductive Value.Runs : Value → List Value → Prop
  | array (items : List Value) : Runs (.array items) items
  | string (s : String) :
      Runs (.string s) (s.toList.map fun c => .string (String.ofList [c]))

theorem Value.Runs.elements? {v : Value} {items : List Value} (h : v.Runs items) :
    v.elements? = some items := by
  cases h with
  | array => rfl
  | string => rfl

namespace Node

theorem render_each_eq {collection : Expr} {env : Env} {v : Value} {items : List Value}
    (hcollection : collection.eval env = .ok v) (hv : v.Runs items) (body : List Node) :
    render env (.each collection body) =
      (renderRounds (fun env => (renderAll env body).map (·.1)) env items.length 0 items).map
        fun cs => (cs, env) := by
  rw [render, hcollection]
  simp only [Bind.bind, Except.bind, hv.elements?]
  cases renderRounds _ env items.length 0 items with
  | error e => rfl
  | ok cs => rfl

theorem renderNodes_cons {node : Node} {data : Value} {x : Except Fault (List Char)}
    (h : render data.fields node = x.map fun cs => (cs, data.fields)) (behind : List Node) :
    renderNodes (node :: behind) data =
      x.bind fun first => (renderNodes behind data).map (first ++ ·) := by
  rw [renderNodes, renderNodes, renderAll, h]
  cases x with
  | error e => rfl
  | ok first =>
      simp only [Bind.bind, Except.bind, Except.map]
      cases renderAll data.fields behind with
      | error e => rfl
      | ok others => rfl

/-- The rounds of a loop are independent of one another and of what follows. The text of a loop
is that of its body with the data of each round in order, or the first error among these, and
nodes behind a loop are rendered as if the loop were not there. -/
theorem render_each {collection : Expr} {fields : List (String × Value)} {v : Value}
    {items : List Value} (hcollection : collection.eval fields = .ok v) (hv : v.Runs items)
    (body : List Node) :
    renderNodes [.each collection body] (.object fields) =
        (items.zipIdx.mapM fun round =>
          renderNodes body ((Value.object fields).inRound round.1 round.2 items.length)).map
            List.flatten ∧
      ∀ behind, renderNodes (.each collection body :: behind) (.object fields) =
        (renderNodes [.each collection body] (.object fields)).bind fun looped =>
          (renderNodes behind (.object fields)).map (looped ++ ·) := by
  have hcons := @renderNodes_cons _ (.object fields) _ (render_each_eq hcollection hv body)
  have hloop : renderNodes [.each collection body] (.object fields) =
      renderRounds (fun env => (renderAll env body).map (·.1)) fields items.length 0 items := by
    rw [hcons []]
    cases renderRounds _ _ items.length 0 items with
    | error e => rfl
    | ok cs => exact congrArg Except.ok (List.append_nil cs)
  refine ⟨?_, fun behind => ?_⟩
  · rw [hloop, renderRounds_eq_mapM]
  · rw [hloop, hcons behind]

/-- A loop inside a loop that binds a name, over data with a field of the name `item`. -/
theorem render_each_nested :
    let rows : List Value := [.string "ab", .string "c"]
    let fields : List (String × Value) := [("item", .string "outer"), ("rows", .array rows)]
    let body : List Node :=
      [.bind "last" (.name "item"),
        .each (.name "item") [.output ⟨.name "item", []⟩, .output ⟨.name "last", []⟩]]
    let loop : Node := .each (.name "rows") body
    let behind : List Node := [.output ⟨.name "item", []⟩]
    (Expr.name "rows").eval fields = .ok (.array rows) ∧ (Value.array rows).Runs rows ∧
      renderNodes [loop] (.object fields) =
        (rows.zipIdx.mapM fun round =>
          renderNodes body ((Value.object fields).inRound round.1 round.2 rows.length)).map
            List.flatten ∧
      renderNodes (loop :: behind) (.object fields) =
        (renderNodes [loop] (.object fields)).bind (fun looped =>
          (renderNodes behind (.object fields)).map (looped ++ ·)) ∧
      renderNodes (loop :: behind) (.object fields) = .ok "aabbabccouter".toList := by
  intro rows fields body loop behind
  have h := @render_each (.name "rows") fields _ _ rfl (.array rows) body
  exact ⟨rfl, .array rows, h.1, h.2 behind, rfl⟩

end Node

/-! ## Bindings -/

namespace Value

/-- The data with a field set. Data that is no object gives way to an object of this field
alone. -/
def withField (data : Value) (key : String) (v : Value) : Value :=
  match data with
  | object fields => object (insertField key v fields)
  | _ => object [(key, v)]

theorem fields_withField (data : Value) (key : String) (v : Value) :
    (data.withField key v).fields = insertField key v data.fields := by
  cases data with
  | object fields => rfl
  | _ => rfl

/-- A name that is bound over data has the same value as a field of the data. -/
theorem agrees_withField (data : Value) (key : String) (v : Value) :
    Env.Agrees ((key, v) :: data.fields) (data.withField key v).fields := by
  intro name
  rw [fields_withField, lookup_insertField, Env.lookup_cons_eq_ite]

end Value

/-- A binding in front of nodes is the same as a field of the data: the nodes have the text, or
the fault, that they have with data in which the name has the value of the expression. A fault of
the expression is the fault of the whole. -/
theorem renderNodes_bind (name : String) (value : Expr) (behind : List Node) (data : Value) :
    renderNodes (.bind name value :: behind) data =
      (value.eval data.fields).bind fun v => renderNodes behind (data.withField name v) := by
  rw [renderNodes, Node.renderAll, Node.render]
  cases value.eval data.fields with
  | error fault => rfl
  | ok v =>
      have hbehind : (Node.renderAll ((name, v) :: data.fields) behind).map (·.1) =
          renderNodes behind (data.withField name v) :=
        Node.text_renderAll_eq_of_agrees (data.agrees_withField name v) behind
      rw [Except.bind, ← hbehind]
      simp only [Bind.bind, Except.bind, List.nil_append]
      cases Node.renderAll ((name, v) :: data.fields) behind with
      | error fault => rfl
      | ok result => rfl

/-- A binding that a round of a loop hides, and that hides a field. -/
example :
    let body : List Node := [.output ⟨.name "item", []⟩]
    let nodes : List Node :=
      [.bind "item" (.name "row"), .output ⟨.name "item", []⟩, .each (.name "item") body]
    renderNodes nodes (.object [("item", .null), ("row", .string "ab")]) = .ok "abab".toList := by
  rfl

end Stencil
