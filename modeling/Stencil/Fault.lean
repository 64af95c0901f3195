/-! # Faults

What can go wrong while a template is evaluated against its data.
-/

namespace Stencil

/-- The cause of a failed evaluation. -/
inductive Fault where
  /-- A name that neither a binding nor the data defines. -/
  | undefined (name : String)
  /-- A member of null, given by its key. -/
  | memberOfNull (key : String)
  /-- A loop over null, given by a short description of its collection. -/
  | loopOverNull (collection : String)
deriving DecidableEq, Repr

namespace Fault

/-- The wording of a fault. -/
def message : Fault → String
  | undefined name => name ++ " 未定义"
  | memberOfNull key => "无法读取 null 的属性 '" ++ key ++ "'"
  | loopOverNull collection => "each 的对象为 null：" ++ collection

end Fault

end Stencil
