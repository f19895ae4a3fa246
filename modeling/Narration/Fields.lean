import Narration.Fields.Description
import Narration.Fields.Progress
import Narration.Fields.Related
import Narration.Fields.Text
import Narration.Registry
/-! The standard fields. -/
namespace Narration.Fields

variable {ω : Type}

def manifest : List (Field (Provider ω)) :=
  [⟨"generate_name", name⟩,
   ⟨"generate_label", label⟩,
   ⟨"generate_label_or_name", labelOrName⟩,
   ⟨"generate_label_and_name", labelAndName⟩,
   ⟨"generate_placeholder_text", placeholderText⟩,
   ⟨"generate_description", description⟩,
   ⟨"generate_unrelated_labels_or_description", unrelatedLabelsOrDescription⟩,
   ⟨"generate_role_name", roleName⟩,
   ⟨"generate_substring", substring⟩,
   ⟨"generate_displayed_text", displayedText⟩,
   ⟨"generate_current_line_text", currentLineText⟩,
   ⟨"generate_value", value⟩,
   ⟨"generate_progress_bar_value", progressBarValue⟩,
   ⟨"generate_progress_bar_index", progressBarIndex⟩,
   ⟨"generate_application_name", applicationName⟩,
   ⟨"generate_named_containing_panel", namedContainingPanel⟩,
   ⟨"generate_real_active_descendant_displayed_text", realActiveDescendantDisplayedText⟩,
   ⟨"generate_real_active_descendant_role_name", realActiveDescendantRoleName⟩,
   ⟨"generate_active_descendant", activeDescendant⟩]

def registry : Except RegistryError (Registry (Provider ω)) := Registry.ofManifest manifest

end Narration.Fields
