import Signage.Player.Model
import Signage.Text.Blank

/-! The family of a device by the model it tells. -/
namespace Signage.Identity

/-- How the models of each family begin, in lower case. -/
def modelPrefixes : List (List Char × Model) :=
  [(['g', 'a', 'r', 'l', 'i', 'c'], .garlic), (['x', 'm', 'p', '-', '1'], .xmp1x0),
    (['x', 'm', 'p', '-', '2'], .xmp2x00), (['x', 'm', 'p', '-', '6'], .xmp2x00),
    (['x', 'm', 'p', '-', '7'], .xmp2x00), (['x', 'd', 's', '-'], .xmp2x00),
    (['x', 'm', 'p', '-', '3'], .xmp3x0), (['i', 'd', 's'], .ids), (['q', 'b', 'i', 'c'], .qbic),
    (['b', 'x', 'p', '-'], .qbic), (['s', 'c', 'r', 'e', 'e', 'n', 'l', 'i', 't', 'e'], .screenlite),
    (['s', 'm', 'i', 'l'], .compatible)]

/-- The family of the model; case of ASCII letters and blanks around it do not matter. -/
def modelOfToken (token : List Char) : Model :=
  let token := (Text.trim token).map Char.toLower
  match modelPrefixes.find? fun (beginning, _) => beginning.isPrefixOf token with
  | some (_, model) => model
  | none => .unknown

end Signage.Identity
