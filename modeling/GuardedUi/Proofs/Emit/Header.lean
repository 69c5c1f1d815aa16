import GuardedUi.Proofs.Emit.Lines

/-!
# `Proofs/Emit/Header` — the declarations document

The header template is written down once more here, as the text with tags that it is known as
(`Template.parse_headerText`). Nothing that it asks for can be missing, whatever the options are and
whatever is declared:

> **The template is rendered, and the result is the lines of a header around the declarations**
> (`render_header`).
-/

set_option autoImplicit false

namespace GuardedUi

namespace Template

/-- The header template as a text with tags. -/
def headerText : String :=
  "\x7b\x7b\x7bbanner\x7d\x7d\x7d\n" ++
  "#ifndef \x7b\x7binclude_guard header\x7d\x7d\n" ++
  "#define \x7b\x7binclude_guard header\x7d\x7d\n\n" ++
  "#include \"lvgl.h\"\n\n" ++
  "\x7b\x7b\x7bdeclarations\x7d\x7d\x7dvoid \x7b\x7binit_fn\x7d\x7d(void);\n\n" ++
  "#endif\n"

theorem parse_headerText : parse headerText = .ok header := by
  have hparts : partsFrom 0 [] headerText.toList = some header := by decide +kernel
  rw [parse, hparts]

end Template

namespace Templates

/-- The templates that there are at first are those of which the texts can be read. -/
theorem register_headerText :
    register Bag.empty headerName Template.headerText = .ok builtin := by
  rw [register, Template.parse_headerText]
  rfl

end Templates

namespace Emission

/-- The lines of a header in which variables are declared. -/
def headerLines (options : EmitOptions) (styleVariables widgetVariables : List String) :
    List String :=
  [banner, "#ifndef " ++ Name.includeGuard options.headerName,
    "#define " ++ Name.includeGuard options.headerName, "", "#include \"lvgl.h\"", ""] ++
  SourceSections.group (styleVariables.map fun name => "extern lv_style_t " ++ name ++ ";") ++
  SourceSections.group (widgetVariables.map fun name => "extern lv_obj_t *" ++ name ++ ";") ++
  ["void " ++ options.initializer ++ "(void);", "", "#endif"]

theorem toList_declarationGroup (lines : List String) :
    (declarationGroup lines).toList = linesText (SourceSections.group lines) := by
  cases lines with
  | nil => rfl
  | cons line rest =>
    have hlines := toList_endLines (List.cons_ne_nil line rest)
    rw [endLines, String.toList_append] at hlines
    unfold declarationGroup SourceSections.group
    rw [if_neg (by simp), if_neg (by simp), String.toList_append, linesText_append, ← hlines,
      List.append_assoc]
    rfl

/-- **The header template is rendered**, whatever it is given. -/
theorem render_header (options : EmitOptions) (styleVariables widgetVariables : List String) :
    ∃ header, Templates.builtin.render Templates.headerName
        (headerData options (declarations styleVariables widgetVariables)) = .ok header ∧
      header.toList = linesText (headerLines options styleVariables widgetVariables) := by
  have hget : Templates.builtin.get? Templates.headerName = some Template.header := by decide
  rw [Templates.render, hget]
  refine ⟨_, rfl, ?_⟩
  simp only [headerLines, linesText_append, ← toList_declarationGroup, declarations]
  simp [linesText_cons, String.toList_append, Template.valueText]

end Emission

end GuardedUi
