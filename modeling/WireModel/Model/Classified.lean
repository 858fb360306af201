import WireModel.Model.Basic

/-! Models with classified references and properties of their own. Processors check and complete
models of this form. -/
namespace WireModel

structure Model where
  properties : Properties := ∅
  declarations : List (Declaration Classification)

namespace Model

def find? (model : Model) (name : String) : Option (Declaration Classification) :=
  findDeclaration? name model.declarations

def mapDeclarations (f : Declaration Classification → Declaration Classification)
    (model : Model) : Model :=
  { model with declarations := model.declarations.map f }

end Model

end WireModel
