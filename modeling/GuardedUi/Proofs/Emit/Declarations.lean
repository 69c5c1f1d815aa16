import GuardedUi.Proofs.Emit.Definitions

/-!
# `Proofs/Emit/Declarations` — what is declared, defined and used

A variable turns up in three places. The header declares it, through a template that is filled in;
the implementation defines it, on a line of a list; and the statements of the initializer use it,
which a walk over the tree puts together by names of its own. This file compares the three:

> **Header and implementation list the same variables in the same order, and the initializer uses no
> others** (`declared_variables`).

What a line uses is read off its text: the words in it that begin with `ui_` (`variablesIn`), where
the texts that widgets show do not count. In a registration the handler may be such a word as well,
and it is no variable.
-/

set_option autoImplicit false

namespace GuardedUi

open Guard

/-! ## Variables in a text -/

/-- What the variables of a document begin with. -/
def variableStart : List Char :=
  ['u', 'i', '_']

/-- The words of a text that begin like variables, in order. -/
def variablesIn (text : List Char) : List String :=
  ((text.splitOnP fun c => !isIdChar c).filter variableStart.isPrefixOf).map String.ofList

example : variablesIn "  lv_obj_add_style(ui_card, &ui_style_dark, 0);".toList =
    ["ui_card", "ui_style_dark"] := by decide

/-- **A text is parted by a character that belongs to no word.** All else about `variablesIn` follows
from this. -/
theorem variablesIn_append_cons (a : List Char) {c : Char} (hc : isIdChar c = false)
    (b : List Char) : variablesIn (a ++ c :: b) = variablesIn a ++ variablesIn b := by
  rw [variablesIn, List.splitOnP_append_cons a b (by simp [hc]), List.filter_append,
    List.map_append]
  rfl

theorem variablesIn_cons {c : Char} (hc : isIdChar c = false) (text : List Char) :
    variablesIn (c :: text) = variablesIn text :=
  variablesIn_append_cons [] hc text

theorem variablesIn_word {word : String} (h : IsWord word) :
    variablesIn word.toList =
      if variableStart.isPrefixOf word.toList = true then [word] else [] := by
  rw [variablesIn, List.splitOnP_eq_singleton fun c hc => by simp [h.2 c hc], List.filter_cons]
  split <;> simp

theorem mem_of_mem_splitOnP {p : Char → Bool} : ∀ {text word : List Char},
    word ∈ text.splitOnP p → ∀ c ∈ word, c ∈ text
  | [], word, hw => by
    obtain rfl := List.mem_singleton.mp hw
    exact fun c hc => hc
  | x :: rest, word, hw => by
    obtain ⟨first, others, hsplit⟩ := List.exists_cons_of_ne_nil (List.splitOnP_ne_nil p rest)
    have hrest : ∀ piece ∈ first :: others, ∀ c ∈ piece, c ∈ rest :=
      fun piece hp => mem_of_mem_splitOnP (hsplit ▸ hp)
    rw [List.splitOnP_cons_eq_if_modifyHead, hsplit] at hw
    intro c hc
    split at hw
    · rcases List.mem_cons.mp hw with rfl | hw
      · exact absurd hc (by simp)
      · exact List.mem_cons_of_mem x (hrest word hw c hc)
    · -- The first piece goes on with the character.
      rcases List.mem_cons.mp hw with rfl | hw
      · rcases List.mem_cons.mp hc with rfl | hc
        · exact List.mem_cons_self
        · exact List.mem_cons_of_mem x (hrest first List.mem_cons_self c hc)
      · exact List.mem_cons_of_mem x (hrest word (List.mem_cons_of_mem first hw) c hc)

theorem variablesIn_eq_nil {text : List Char} (h : '_' ∉ text) : variablesIn text = [] := by
  rw [variablesIn, List.map_eq_nil_iff, List.filter_eq_nil_iff]
  intro word hword hstart
  have hscore : '_' ∈ word := (List.isPrefixOf_iff_prefix.mp hstart).subset (by decide)
  exact h (mem_of_mem_splitOnP hword '_' hscore)

theorem variablesIn_styleVariable (id : String) :
    variablesIn (Name.styleVariable id).toList = [Name.styleVariable id] := by
  rw [variablesIn_word (Name.isWord_styleVariable id), if_pos]
  simp [Name.styleVariable, String.toList_append, variableStart, List.isPrefixOf]

theorem variablesIn_widgetVariable {identifier : String} (h : IsWord identifier) :
    variablesIn (Name.widgetVariable identifier).toList = [Name.widgetVariable identifier] := by
  rw [variablesIn_word (Name.isWord_widgetVariable h), if_pos]
  simp [Name.widgetVariable, String.toList_append, variableStart, List.isPrefixOf]

/-! ## Calls -/

theorem variablesIn_formatNumber (d : Double) : variablesIn (Emit.formatNumber d).toList = [] :=
  variablesIn_eq_nil ((numeric_formatNumber d).not_mem (by decide))

theorem variablesIn_formatColor (d : Double) : variablesIn (Emit.formatColor d).toList = [] := by
  have hhex : '_' ∉ (Emit.hexSix (d.clampTo Emit.greatestColor)).toList :=
    not_mem_hexSix (fun n => Nat.digitChar_ne '_' (by decide)) _
  have hcall : (Emit.formatColor d).toList = "lv_color_hex".toList ++ '(' :: ("0x".toList ++
      ((Emit.hexSix (d.clampTo Emit.greatestColor)).toList ++ [')'])) := by
    show ("lv_color_hex(0x" ++ Emit.hexSix (d.clampTo Emit.greatestColor) ++ ")").toList = _
    simp [String.toList_append]
  have hargument : '_' ∉ "0x".toList ++
      ((Emit.hexSix (d.clampTo Emit.greatestColor)).toList ++ [')']) := by
    simp [hhex]
  rw [hcall, variablesIn_append_cons _ (by decide), variablesIn_eq_nil hargument]
  decide

theorem variablesIn_formatValue (name : String) (d : Double) :
    variablesIn (Emit.formatValue name d).toList = [] := by
  rw [Emit.formatValue]
  split
  · exact variablesIn_formatColor d
  · exact variablesIn_formatNumber d

theorem variablesIn_commaSeparated : ∀ arguments : List String,
    variablesIn (commaSeparated arguments).toList =
      arguments.flatMap fun argument => variablesIn argument.toList
  | [] => rfl
  | [argument] => by simp [commaSeparated]
  | first :: second :: rest => by
    have hrest := variablesIn_commaSeparated (second :: rest)
    have hcomma : (commaSeparated (first :: second :: rest)).toList =
        first.toList ++ ',' :: ' ' :: (commaSeparated (second :: rest)).toList := by
      rw [commaSeparated]
      · simp [String.toList_append]
      · simp
    rw [hcomma, variablesIn_append_cons _ (by decide), variablesIn_cons (by decide), hrest]
    rfl

/-- A call uses the variables in its arguments, if its function is not called like one. -/
theorem variablesIn_callLine {function : String} (hf : variablesIn function.toList = [])
    (arguments : List String) :
    variablesIn (callLine function arguments).toList =
      arguments.flatMap fun argument => variablesIn argument.toList := by
  have hline : (callLine function arguments).toList = ' ' :: ' ' :: (function.toList ++
      '(' :: ((commaSeparated arguments).toList ++ ')' :: [';'])) := by
    simp [callLine, indentation, String.toList_append]
  have hend : variablesIn [';'] = [] := by decide
  rw [hline, variablesIn_cons (by decide), variablesIn_cons (by decide),
    variablesIn_append_cons _ (by decide), hf, variablesIn_append_cons _ (by decide), hend,
    variablesIn_commaSeparated, List.nil_append, List.append_nil]

theorem variablesIn_reference (name : String) :
    variablesIn ("&" ++ name).toList = variablesIn name.toList := by
  rw [String.toList_append]
  exact variablesIn_cons (by decide) _

/-! ## Statements that set up styles -/

/-- The statements for a style use its variable and nothing else. -/
theorem StyleStatement.variablesIn_line {style : SharedStyle} :
    ∀ s ∈ ofStyle style, variablesIn s.line.toList = [Name.styleVariable style.id] := by
  have hproperties : ∀ name ∈ properties, variablesIn ("lv_style_set_" ++ name).toList = [] := by
    decide
  have htarget : variablesIn ("&" ++ Name.styleVariable style.id).toList =
      [Name.styleVariable style.id] := by
    rw [variablesIn_reference, variablesIn_styleVariable]
  intro s hs
  rcases List.mem_cons.mp hs with rfl | hs
  · have hinit : variablesIn "lv_style_init".toList = [] := by decide
    rw [line, variablesIn_callLine hinit, List.flatMap_singleton, htarget]
  · obtain ⟨name, hname, heq⟩ := List.mem_filterMap.mp hs
    obtain ⟨value, -, rfl⟩ := Option.map_eq_some_iff.mp heq
    rw [line, variablesIn_callLine (hproperties name hname)]
    simp only [List.flatMap_cons, List.flatMap_nil, htarget, variablesIn_formatValue,
      List.append_nil]

/-! ## Statements that build widgets -/

namespace Setter

/-- The setter with nothing for the text that it shows. -/
def withoutText : Setter → Setter
  | .text function _ => .text function ""
  | s => s

/-- The arguments of the call behind the widget. -/
def arguments : Setter → List String
  | .position x y => [Emit.formatNumber x, Emit.formatNumber y]
  | .size across down => [Emit.formatNumber across, Emit.formatNumber down]
  | .width across => [Emit.formatNumber across]
  | .height down => [Emit.formatNumber down]
  | .text _ content => ["\"" ++ content ++ "\""]
  | .range _ least greatest => [Emit.formatNumber least, Emit.formatNumber greatest]
  | .value _ number animates =>
    Emit.formatNumber number :: if animates then ["LV_ANIM_OFF"] else []
  | .color _ number => [Emit.formatColor number, "0"]

theorem line_eq (target : String) (s : Setter) :
    s.line target = callLine s.function (target :: s.arguments) := by
  cases s <;> rfl

theorem function_withoutText (s : Setter) : s.withoutText.function = s.function := by
  cases s <;> rfl

theorem variablesIn_arguments (s : Setter) :
    s.withoutText.arguments.flatMap (fun argument => variablesIn argument.toList) = [] := by
  cases s with
  | text function content =>
    show variablesIn "\"\"".toList ++ [] = []
    decide
  | value family number animates =>
    have hanimates : (if animates then ["LV_ANIM_OFF"] else []).flatMap
        (fun argument => variablesIn argument.toList) = [] := by
      cases animates <;> decide
    simp only [withoutText, arguments, List.flatMap_cons, variablesIn_formatNumber, hanimates,
      List.append_nil]
  | color property number =>
    have hzero : variablesIn "0".toList = [] := by decide
    simp only [withoutText, arguments, List.flatMap_cons, List.flatMap_nil, variablesIn_formatColor,
      hzero, List.append_nil]
  | _ =>
    simp only [withoutText, arguments, List.flatMap_cons, List.flatMap_nil,
      variablesIn_formatNumber, List.append_nil]

theorem variablesIn_line {target : String} (ht : variablesIn target.toList = [target]) {s : Setter}
    (hs : s.function ∈ functions) : variablesIn (s.withoutText.line target).toList = [target] := by
  have hfunctions : ∀ name ∈ functions, variablesIn name.toList = [] := by decide
  have hfunction : variablesIn s.withoutText.function.toList = [] := by
    rw [function_withoutText]
    exact hfunctions s.function hs
  rw [line_eq, variablesIn_callLine hfunction, List.flatMap_cons, ht, variablesIn_arguments,
    List.append_nil]

end Setter

namespace Statement

/-- The statement with nothing for the text that it shows. -/
def withoutText : Statement → Statement
  | .set target setter => .set target setter.withoutText
  | s => s

/-- The variables of widgets that the statement uses: the one it is about, and that of a parent. -/
def widgets : Statement → List String
  | .create target _ parent => target :: parent.toList
  | .addStyle target _ => [target]
  | .set target _ => [target]
  | .addEvent target _ => [target]

/-- The variable of a style that the statement uses. -/
def style? : Statement → Option String
  | .addStyle _ style => some style
  | _ => none

/-- The function that the statement registers. -/
def handler? : Statement → Option String
  | .addEvent _ registration => some registration.handler
  | _ => none

end Statement

/-! ## Where statements come from -/

namespace Construction

/-- A statement of the walk: it belongs to a widget that has an identifier, and the widget in which
it is created has one too. -/
inductive Made (identifiers : Name.Identifiers) (sheet : StyleSheet) : Statement → Prop where
  | opening {identifier : String} {parent : Option String} {w : Widget} {s : Statement}
    (hidentifier : identifier ∈ identifiers.values)
    (hparent : ∀ name ∈ parent, name ∈ Emission.widgetVariables identifiers)
    (hs : s ∈ Construction.opening sheet (Name.widgetVariable identifier) parent w) :
    Made identifiers sheet s
  | event {identifier : String} {w : Widget} {r : Registration}
    (hidentifier : identifier ∈ identifiers.values)
    (hr : r ∈ Registration.ofWidget w identifier) :
    Made identifiers sheet (.addEvent (Name.widgetVariable identifier) r)

mutual

theorem made_ofWidget (identifiers : Name.Identifiers) (sheet : StyleSheet) (path : String)
    {parent : Option String} (hp : ∀ name ∈ parent, name ∈ Emission.widgetVariables identifiers)
    (stubs : Stubs) : ∀ (w : Widget),
      ∀ s ∈ (ofWidget identifiers sheet path parent stubs w).statements, Made identifiers sheet s
  | ⟨type, id, children, styleId, events, properties⟩ => by
    rw [ofWidget]
    cases hget : identifiers.get? path with
    | none => simp
    | some identifier =>
      have hidentifier : identifier ∈ identifiers.values :=
        List.mem_map_of_mem (f := Prod.snd) (Bag.get?_eq_some_iff.mp hget)
      intro s hs
      rcases List.mem_append.mp hs with hs | hs
      · rcases List.mem_append.mp hs with hs | hs
        · exact .opening hidentifier hp hs
        · -- The children are created in the variable of this widget.
          exact made_ofChildren identifiers sheet path
            (List.mem_map_of_mem (f := Name.widgetVariable) hidentifier) 0 _ children s hs
      · obtain ⟨r, hr, rfl⟩ := List.mem_map.mp hs
        exact .event hidentifier hr

theorem made_ofChildren (identifiers : Name.Identifiers) (sheet : StyleSheet) (path : String)
    {parent : String} (hp : parent ∈ Emission.widgetVariables identifiers) (index : Nat)
    (stubs : Stubs) : ∀ (children : List Widget),
      ∀ s ∈ (ofChildren identifiers sheet path parent index stubs children).statements,
        Made identifiers sheet s
  | [] => by simp [ofChildren]
  | w :: rest => by
    rw [ofChildren]
    intro s hs
    rcases List.mem_append.mp hs with hs | hs
    · have hparent : ∀ name ∈ some parent, name ∈ Emission.widgetVariables identifiers :=
        fun name h => Option.some.inj h ▸ hp
      exact made_ofWidget identifiers sheet (Name.childPath path index) hparent stubs w s hs
    · exact made_ofChildren identifiers sheet path hp (index + 1) _ rest s hs

end

theorem made_ofRoot (identifiers : Name.Identifiers) (sheet : StyleSheet) (root : Option Widget) :
    ∀ s ∈ (ofRoot identifiers sheet root).statements, Made identifiers sheet s := by
  cases root with
  | none => simp [ofRoot]
  | some root => exact made_ofWidget identifiers sheet Name.rootPath (by simp) .empty root

end Construction

/-! ## What statements use -/

namespace Emission

theorem variablesIn_of_mem_widgetVariables {layout : Layout} {name : String}
    (h : name ∈ widgetVariables (Name.assign layout.root)) : variablesIn name.toList = [name] := by
  obtain ⟨identifier, hi, rfl⟩ := List.mem_map.mp h
  obtain ⟨entry, he, rfl⟩ := List.mem_map.mp hi
  exact variablesIn_widgetVariable
    (Name.wordy_assign layout.root entry.1 entry.2 (Bag.get?_eq_some_iff.mpr he))

theorem mem_styleVariables_of_get? {sheet : StyleSheet} {id : String}
    (h : (sheet.get? id).isSome = true) : Name.styleVariable id ∈ styleVariables sheet := by
  obtain ⟨style, hstyle⟩ := Option.isSome_iff_exists.mp h
  have hid : style.id = id := by simpa using List.find?_some hstyle
  exact List.mem_map.mpr ⟨style, List.mem_of_find?_eq_some hstyle, by rw [hid]⟩

end Emission

/-- The statement uses no other variables than these, and its line shows what it uses: apart from
the text, only a handler can look like a variable. -/
structure Statement.Uses (styles widgets : List String) (s : Statement) : Prop where
  widgets : ∀ name ∈ s.widgets, name ∈ widgets
  style : ∀ name ∈ s.style?, name ∈ styles
  line : variablesIn s.withoutText.line.toList =
    s.widgets ++ s.style?.toList ++ s.handler?.toList.flatMap fun name => variablesIn name.toList

namespace Statement

variable {layout : Layout} {sheet : StyleSheet} {target : String}

theorem uses_create (ht : target ∈ Emission.widgetVariables (Name.assign layout.root))
    (kind : WidgetKind) {parent : Option String}
    (hp : ∀ name ∈ parent, name ∈ Emission.widgetVariables (Name.assign layout.root)) :
    (Statement.create target kind parent).Uses (Emission.styleVariables sheet)
      (Emission.widgetVariables (Name.assign layout.root)) where
  widgets := by
    intro name hn
    rcases List.mem_cons.mp hn with rfl | hn
    · exact ht
    · exact hp name (Option.mem_toList.mp hn)
  style := by simp [style?]
  line := by
    have hparent : variablesIn (parent.getD "NULL").toList = parent.toList := by
      cases parent with
      | none => decide
      | some name => exact Emission.variablesIn_of_mem_widgetVariables (hp name rfl)
    have hconstructor : variablesIn kind.constructor.toList = [] := by
      cases kind <;> decide
    have hline : (Statement.create target kind parent).line.toList =
        ' ' :: ' ' :: (target.toList ++ ' ' :: '=' :: ' ' :: (kind.constructor.toList ++
          '(' :: ((parent.getD "NULL").toList ++ ')' :: [';']))) := by
      simp [Statement.line, indentation, String.toList_append]
    have hend : variablesIn [';'] = [] := by decide
    show variablesIn (Statement.create target kind parent).line.toList = _
    rw [hline, variablesIn_cons (by decide), variablesIn_cons (by decide),
      variablesIn_append_cons _ (by decide), variablesIn_cons (by decide),
      variablesIn_cons (by decide), variablesIn_append_cons _ (by decide),
      variablesIn_append_cons _ (by decide), hconstructor, hparent, hend,
      Emission.variablesIn_of_mem_widgetVariables ht]
    simp [widgets, style?, handler?]

theorem uses_addStyle (ht : target ∈ Emission.widgetVariables (Name.assign layout.root))
    {id : String} (hid : (sheet.get? id).isSome = true) :
    (Statement.addStyle target (Name.styleVariable id)).Uses (Emission.styleVariables sheet)
      (Emission.widgetVariables (Name.assign layout.root)) where
  widgets := by simpa [widgets] using ht
  style := by simpa [style?] using Emission.mem_styleVariables_of_get? hid
  line := by
    have hfunction : variablesIn "lv_obj_add_style".toList = [] := by decide
    have hzero : variablesIn "0".toList = [] := by decide
    show variablesIn (callLine _ _).toList = _
    rw [variablesIn_callLine hfunction]
    simp only [List.flatMap_cons, List.flatMap_nil, variablesIn_reference,
      variablesIn_styleVariable, hzero, Emission.variablesIn_of_mem_widgetVariables ht, widgets,
      style?, handler?, Option.toList_some, Option.toList_none]
    rfl

theorem uses_set (ht : target ∈ Emission.widgetVariables (Name.assign layout.root))
    {setter : Setter} (hs : setter.function ∈ Setter.functions) :
    (Statement.set target setter).Uses (Emission.styleVariables sheet)
      (Emission.widgetVariables (Name.assign layout.root)) where
  widgets := by simpa [widgets] using ht
  style := by simp [style?]
  line := Setter.variablesIn_line (Emission.variablesIn_of_mem_widgetVariables ht) hs

theorem uses_addEvent (ht : target ∈ Emission.widgetVariables (Name.assign layout.root))
    {w : Widget} {identifier : String} {r : Registration}
    (hr : r ∈ Registration.ofWidget w identifier) :
    (Statement.addEvent target r).Uses (Emission.styleVariables sheet)
      (Emission.widgetVariables (Name.assign layout.root)) where
  widgets := by simpa [widgets] using ht
  style := by simp [style?]
  line := by
    have hfunction : variablesIn "lv_obj_add_event_cb".toList = [] := by decide
    have hnull : variablesIn "NULL".toList = [] := by decide
    have hcodes : ∀ event ∈ Event.table, variablesIn event.code.toList = [] := by decide
    obtain ⟨event, he, hcode⟩ := exists_code hr
    replace hcode : variablesIn r.code.toList = [] := hcode ▸ hcodes event he
    show variablesIn (callLine _ _).toList = _
    rw [variablesIn_callLine hfunction]
    simp only [List.flatMap_cons, List.flatMap_nil, hcode, hnull,
      Emission.variablesIn_of_mem_widgetVariables ht, widgets, style?, handler?,
      Option.toList_some, Option.toList_none, List.append_nil]

end Statement

/-- Whatever the walk puts together uses declared variables only. -/
theorem Construction.Made.uses {layout : Layout} {sheet : StyleSheet} {s : Statement}
    (h : Made (Name.assign layout.root) sheet s) :
    s.Uses (Emission.styleVariables sheet)
      (Emission.widgetVariables (Name.assign layout.root)) := by
  cases h with
  | opening hidentifier hparent hs =>
    have htarget := List.mem_map_of_mem (f := Name.widgetVariable) hidentifier
    rcases List.mem_append.mp hs with hs | hs
    · rcases List.mem_cons.mp hs with rfl | hs
      · exact Statement.uses_create htarget _ hparent
      · obtain ⟨id, hid, rfl⟩ := exists_of_mem_styleOf hs
        exact Statement.uses_addStyle htarget hid
    · obtain ⟨setter, hsetter, rfl⟩ := List.mem_map.mp hs
      exact Statement.uses_set htarget (Setter.function_mem_ofWidget setter hsetter)
  | event hidentifier hr =>
    exact Statement.uses_addEvent (List.mem_map_of_mem (f := Name.widgetVariable) hidentifier) hr

/-! ## The documents -/

/-- **Header and implementation agree.** The header is the template with a declaration for every
variable: those of the named styles, as they are collected, and then those of the nodes, in
pre-order. The implementation defines the same variables in the same order before its stubs. In its
initializer, the statements for a style use the variable of that style, and the statements for
widgets use only variables of the two lists. -/
theorem declared_variables (layout : Layout) (sheet : StyleSheet) :
    ∃ emission styles widgets, Emission.emit .standard layout sheet = .ok emission ∧
      styles = (sheet.named.map fun style => Name.styleVariable style.id) ∧
      widgets = (layout.nodes.map fun node => Name.widgetVariable (layout.identifierOf node)) ∧
      (∀ node ∈ layout.nodes,
        emission.identifiers.get? node.path = some (layout.identifierOf node)) ∧
      emission.header.toList = linesText (
        [banner, "#ifndef UI_H", "#define UI_H", "", "#include \"lvgl.h\"", ""] ++
        SourceSections.group (styles.map fun name => "extern lv_style_t " ++ name ++ ";") ++
        SourceSections.group (widgets.map fun name => "extern lv_obj_t *" ++ name ++ ";") ++
        ["void ui_init(void);", "", "#endif"]) ∧
      emission.source.toList = linesText (
        [banner, "#include \"ui.h\"", ""] ++
        SourceSections.group (styles.map fun name => "lv_style_t " ++ name ++ ";") ++
        SourceSections.group (widgets.map fun name => "lv_obj_t *" ++ name ++ " = NULL;") ++
        emission.stubs.flatMap SourceSections.stubText ++
        (["void ui_init(void)", "\x7b"] ++
          SourceSections.setupLines (sheet.named.map StyleStatement.ofStyle) ++
          SourceSections.constructionLines (layout.root.map fun _ => layout.statements sheet)) ++
        regionText initRegion ++ ["\x7d"]) ∧
      (∀ style ∈ sheet.named, Name.styleVariable style.id ∈ styles ∧
        ∀ s ∈ StyleStatement.ofStyle style,
          variablesIn s.line.toList = [Name.styleVariable style.id]) ∧
      ∀ s ∈ layout.statements sheet, s.Uses styles widgets := by
  obtain ⟨emission, hemit, hidentifiers, hstubs, hheader, hsource⟩ :=
    Emission.exists_emit .standard layout sheet
  refine ⟨emission, Emission.styleVariables sheet,
    Emission.widgetVariables (Name.assign layout.root), hemit, rfl,
    Emission.widgetVariables_eq layout, fun node hm => ?_, ?_, ?_, fun style hm => ?_,
    fun s hs => ?_⟩
  · rw [hidentifiers]
    exact Layout.get?_eq_some_identifierOf hm
  · have hguard : Name.includeGuard EmitOptions.standard.headerName = "UI_H" := by decide
    rw [hheader, Emission.headerLines, hguard]
    rfl
  · have hconstruction : (Emission.sections .standard layout sheet).construction =
        layout.root.map fun _ => layout.statements sheet := by
      rw [layout.statements_eq]
      rfl
    rw [hsource, hstubs, ← hconstruction]
    rfl
  · exact ⟨List.mem_map_of_mem (f := fun style : SharedStyle => Name.styleVariable style.id) hm,
      StyleStatement.variablesIn_line⟩
  · rw [layout.statements_eq] at hs
    exact (Construction.made_ofRoot _ sheet _ s hs).uses

end GuardedUi
