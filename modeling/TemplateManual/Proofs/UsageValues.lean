import TemplateManual.Proofs.NamedTypes

set_option autoImplicit false

namespace TemplateManual

def Expr.Verbatim (expr : Expr) : Prop := expr.form = .access ∨ ∃ inner, expr.text = quote inner

def Expr.IsString (expr : Expr) : Prop := ∃ value interpolated, expr.form = .string value interpolated

theorem interpolated_iff_access (expr : Expr) (other : ¬ expr.IsString) :
    expr.isInterpolated = true ↔ expr.form = .access := by
  unfold Expr.isInterpolated
  cases form : expr.form with
  | string value interpolated => exact absurd ⟨value, interpolated, form⟩ other
  | access => simp
  | _ => simp

namespace Usage

theorem is_quoted_iff (text : String) : isQuoted text = true ↔ ∃ inner, text = quote inner := by
  constructor
  · intro quoted
    unfold isQuoted at quoted
    split at quoted
    · rename_i rest starts
      obtain ⟨front, rfl⟩ := List.getLast?_eq_some_iff.mp (by simpa using quoted)
      refine ⟨String.ofList front, ?_⟩
      rw [← String.toList_inj, starts]
      simp [quote]
    · cases quoted
  · rintro ⟨inner, rfl⟩
    have chars : (quote inner).toList = '\'' :: (inner.toList ++ ['\'']) := by simp [quote]
    rw [isQuoted, chars]
    simp

theorem value_of_string (entry : ParameterEntry) (text : String) (given : entry.defaultText = some text)
    (own : entry.userDefined = false) (typed : entry.typeText = "string") :
    value entry = if isQuoted text || entry.interpolated then text else quote text := by
  simp [value, given, own, typed]

theorem filter_indented_lines (wanted : Char → Bool) (noFeed : wanted '\n' = false) (noSpace : wanted ' ' = false)
    (lines : List (List Char)) :
    (String.join ((lines.map String.ofList).map indentLine)).toList.filter wanted =
      lines.flatten.filter wanted := by
  induction lines with
  | nil => rfl
  | cons line rest ih =>
      have first : (indentLine (String.ofList line)).toList.filter wanted = line.filter wanted := by
        unfold indentLine
        by_cases blank : line = []
        · simp [blank, noFeed]
        · simp [blank, noFeed, noSpace]
      simp only [List.map_cons, String.join_cons, String.toList_append, List.filter_append,
        List.flatten_cons, first, ih]

theorem filter_indent_value (wanted : Char → Bool) (noFeed : wanted '\n' = false) (noReturn : wanted '\r' = false)
    (noSpace : wanted ' ' = false) (text : String) :
    (indentValue text).toList.filter wanted = text.toList.filter wanted := by
  rw [← Text.filter_line_chars wanted noFeed noReturn text.toList, indentValue, Text.lines]
  cases Text.lineChars text.toList with
  | nil => rfl
  | cons first rest =>
      simp only [List.map_cons, String.toList_append, String.toList_ofList, List.filter_append,
        List.flatten_cons, filter_indented_lines wanted noFeed noSpace]

-- The quotes around a value are two characters more, wherever its lines are cut.
theorem indent_value_quote_ne (text : String) : indentValue (quote text) ≠ indentValue text := by
  intro same
  have quotes := congrArg (fun written => (written.toList.filter (· == '\'')).length) same
  simp only [filter_indent_value (· == '\'') (by decide) (by decide) (by decide)] at quotes
  have more : ((quote text).toList.filter (· == '\'')).length = (text.toList.filter (· == '\'')).length + 2 := by
    simp [quote]
  omega

theorem argument_of_expression (manual : Manual) (entry : ParameterEntry) (expr : Expr)
    (given : entry.defaultText = some expr.text) (marked : entry.interpolated = expr.isInterpolated)
    (other : ¬ expr.IsString) (own : entry.userDefined = false) (typed : entry.typeText = "string") :
    (expr.Verbatim → argument manual entry = assigned entry.name (indentValue expr.text)) ∧
      (¬ expr.Verbatim → argument manual entry = assigned entry.name (indentValue (quote expr.text))) := by
  have kind : (isQuoted expr.text || entry.interpolated) = true ↔ expr.Verbatim := by
    rw [Bool.or_eq_true, marked, interpolated_iff_access expr other, is_quoted_iff, or_comm, Expr.Verbatim]
  have unlisted : objectType? manual entry = none := by simp [objectType?, own]
  rw [argument_of_unlisted manual entry unlisted, value_of_string entry expr.text given own typed]
  constructor
  · intro verbatim
    rw [if_pos (kind.mpr verbatim)]
  · intro loose
    rw [if_neg (mt kind.mp loose)]

end Usage

theorem of_parameter_default (template : Template) (parameter : Parameter) :
    (ParameterEntry.ofParameter template parameter).value.defaultText = parameter.defaultValue.map Expr.text ∧
      (ParameterEntry.ofParameter template parameter).value.interpolated =
        parameter.defaultValue.any Expr.isInterpolated :=
  ⟨of_parameter_kept ParameterEntry.defaultText template parameter fun _ _ => rfl,
    of_parameter_kept ParameterEntry.interpolated template parameter fun _ _ => rfl⟩

-- The first parameter of each name is the one that the manual keeps.
theorem expression_default_written (template : Template) (publication : Publication) (parameter : Parameter)
    (expr : Expr) (entry : ParameterEntry)
    (kept : template.parameters.find? (fun first => first.name == parameter.name) = some parameter)
    (described : (ParameterEntry.ofParameter template parameter).value = entry)
    (given : parameter.defaultValue = some expr) (other : ¬ expr.IsString)
    (own : entry.userDefined = false) (typed : entry.typeText = "string") :
    ∃ front back written,
      template.manual.value.parameters = front ++ entry :: back ∧
      Usage.text publication template.manual.value =
        Usage.opening publication ++ String.join (front.map (Usage.argument template.manual.value)) ++
          Usage.assigned parameter.name written ++
          String.join (back.map (Usage.argument template.manual.value)) ++ Usage.closing ∧
      (written = Usage.indentValue expr.text ↔ expr.Verbatim) ∧
      (¬ expr.Verbatim → written = Usage.indentValue (quote expr.text)) := by
  have found := (parameter_entries_documents template).first parameter.name
  rw [kept, Option.map_some, described] at found
  have listed : entry ∈ template.manual.value.parameters := List.mem_of_find?_eq_some found
  obtain ⟨front, back, split⟩ := List.append_of_mem listed
  have name : entry.name = parameter.name := described ▸ of_parameter_name template parameter
  obtain ⟨text, marked⟩ := of_parameter_default template parameter
  rw [described, given] at text marked
  obtain ⟨plain, quoted⟩ :=
    Usage.argument_of_expression template.manual.value entry expr text marked other own typed
  have whole := Usage.text_split publication template.manual.value front back entry split
  by_cases verbatim : expr.Verbatim
  · rw [plain verbatim, name] at whole
    exact ⟨front, back, _, split, whole, iff_of_true rfl verbatim, fun loose => absurd verbatim loose⟩
  · rw [quoted verbatim, name] at whole
    exact ⟨front, back, _, split, whole, iff_of_false (Usage.indent_value_quote_ne expr.text) verbatim,
      fun _ => rfl⟩

def networkModule : Publication := ⟨"net", "public", "br", "net", "1"⟩

def zoneOfGroup : Parameter := ⟨"zone", .string, .other "string", [], some (.access "group()\n.zone")⟩

def zoneTwice : Template := ⟨[zoneOfGroup, ⟨"zone", .int, .other "int", [], none⟩], [], [], []⟩

theorem access_default_unquoted : ∃ front back,
    zoneTwice.manual.value.parameters =
      front ++ (ParameterEntry.ofParameter zoneTwice zoneOfGroup).value :: back ∧
    Usage.text networkModule zoneTwice.manual.value =
      Usage.opening networkModule ++ String.join (front.map (Usage.argument zoneTwice.manual.value)) ++
        "    zone: group()\n    .zone\n" ++
        String.join (back.map (Usage.argument zoneTwice.manual.value)) ++ Usage.closing := by
  obtain ⟨front, back, written, split, whole, unquoted, _⟩ :=
    expression_default_written zoneTwice networkModule zoneOfGroup (.access "group()\n.zone") _ rfl rfl rfl
      (by rintro ⟨_, _, form⟩; cases form) rfl rfl
  obtain rfl := unquoted.mpr (Or.inl rfl)
  have shown : Usage.assigned zoneOfGroup.name (Usage.indentValue "group()\n.zone") =
      "    zone: group()\n    .zone\n" := by decide +kernel
  exact ⟨front, back, split, shown ▸ whole⟩

def stampOfCall : Parameter := ⟨"stamp", .string, .other "string", [], some (.call "utcNow()")⟩

def stampOnly : Template := ⟨[stampOfCall], [], [], []⟩

theorem call_default_quoted :
    ¬ (Expr.call "utcNow()").IsString ∧
      (ParameterEntry.ofParameter stampOnly stampOfCall).value.userDefined = false ∧
      (ParameterEntry.ofParameter stampOnly stampOfCall).value.typeText = "string" ∧
      stampOnly.manual.value.parameters = [(ParameterEntry.ofParameter stampOnly stampOfCall).value] ∧
      Usage.text networkModule stampOnly.manual.value =
        "module net 'br/public:net:1' = \x7b\n  name: 'net'\n  params: \x7b\n    stamp: 'utcNow()'\n  \x7d\n\x7d" := by
  refine ⟨?_, by decide +kernel⟩
  rintro ⟨_, _, form⟩
  cases form

end TemplateManual
