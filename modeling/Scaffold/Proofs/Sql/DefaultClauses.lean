import Scaffold.Json.Reader
import Scaffold.Proofs.Records.Columns
import Scaffold.Proofs.Sql.Literals
import Scaffold.Proofs.Text.Joined

/-!
# Default clauses

The column of a field stands in the text of a migration before a comma or a line
break, and its default stands last in it. So the literal of a text, a list or a
mapping ends where the clause does (`Sql.literal_reads_back`), and a clause is
one constant unless its default is a double without digits
(`Sql.default_clause_constant_iff`).
-/

namespace Scaffold

namespace Sql

/-! ## Columns in a migration -/

/-- A column in a text, with what stands behind it. -/
structure Column.StandsIn (col : Column) (text behind : List Char) : Prop where
  suffix : col.render.toList ++ behind <:+ text
  boundary : ∀ c ∈ behind.head?, c = ',' ∨ c = '\n'

theorem standsIn_columns {cs : List Column} {col : Column} (h : col ∈ cs) :
    ∃ behind, col.StandsIn (",\n".intercalate (cs.map fun c => "  " ++ c.render)).toList behind := by
  have hmem : ("  " ++ col.render).toList ∈ (cs.map fun c => "  " ++ c.render).map String.toList :=
    List.mem_map_of_mem (List.mem_map_of_mem h)
  obtain ⟨behind, hsuffix, hbehind⟩ := Text.suffix_intercalate ",\n".toList hmem
  rw [String.toList_append, List.append_assoc] at hsuffix
  refine ⟨behind, ?_, ?_⟩
  · rw [String.toList_intercalate]
    exact (List.suffix_append _ _).trans hsuffix
  · rcases hbehind with rfl | ⟨rest, rfl⟩ <;> simp

theorem Column.StandsIn.joinLines {col : Column} {line : String} {behind : List Char}
    (h : col.StandsIn line.toList behind) {lines : List String} (hline : line ∈ lines) :
    ∃ behind, col.StandsIn (joinLines lines).toList behind := by
  obtain ⟨later, hsuffix, hlater⟩ :=
    Text.suffix_intercalate "\n".toList (List.mem_map_of_mem (f := String.toList) hline)
  refine ⟨behind ++ later, ?_, ?_⟩
  · rw [Sql.joinLines, String.toList_intercalate, ← List.append_assoc]
    exact (List.suffix_append_self_iff.mpr h.suffix).trans hsuffix
  · -- the last column of a table ends its line, so the line break is behind it
    cases behind with
    | cons c rest => exact h.boundary
    | nil => rcases hlater with rfl | ⟨rest, rfl⟩ <;> simp

theorem exists_mem_columns {e : Entity} {cs : List Column} (h : columns e = .ok cs) {f : ScalarField}
    (hf : f ∈ e.scalarFields) : ∃ col ∈ cs, Column.ofField e f = .ok col := by
  obtain ⟨declared, hdeclared, rfl⟩ := bind_pure_eq_ok.mp h
  obtain ⟨col, hmem, hcol⟩ := exists_ok_of_mem hdeclared hf
  exact ⟨col, List.mem_append_left _ (List.mem_append_right _ hmem), hcol⟩

/-- Each scalar field of a written migration has its column there. -/
theorem exists_standsIn {m : Manifest} {t : Moment} {sql : String} (h : migrationText m t = .ok sql)
    {e : Entity} (he : e ∈ m.entities) {f : ScalarField} (hf : f ∈ e.scalarFields) :
    ∃ col behind, Column.ofField e f = .ok col ∧ col.StandsIn sql.toList behind := by
  obtain ⟨groups, hgroups, rfl⟩ := migrationText_eq_ok.mp h
  obtain ⟨statements, hgroup, hstatements⟩ := exists_ok_of_mem hgroups he
  obtain ⟨cs, hcs, rfl⟩ := createStatements_eq_ok hstatements
  obtain ⟨col, hmem, hcol⟩ := exists_mem_columns hcs hf
  obtain ⟨before, hcolumns⟩ := standsIn_columns hmem
  have hline : ",\n".intercalate (cs.map fun c => "  " ++ c.render) ∈ header m t "init" ++
      groups.flatMap (fun g => "" :: g.flatMap Statement.lines) ++ [""] := by
    refine List.mem_append_left _ (List.mem_append_right _ (List.mem_flatMap.mpr ⟨_, hgroup, ?_⟩))
    simp [Statement.lines]
  obtain ⟨behind, hstands⟩ := hcolumns.joinLines hline
  exact ⟨col, behind, hcol, hstands⟩

end Sql

/-! ## Attributes in a module -/

namespace Mapped

theorem serverDefault_infix_render {a : Attribute} {l : String} (h : .serverDefault l ∈ a.options) :
    ("server_default=text(" ++ l ++ ")").toList <:+: a.render.toList := by
  have hmem : (Option.serverDefault l).render.toList ∈
      (a.column :: a.columnType :: a.options.map Option.render).map String.toList :=
    List.mem_map_of_mem (List.mem_cons_of_mem _ (List.mem_cons_of_mem _ (List.mem_map_of_mem h)))
  have hoptions := Text.infix_intercalate ", ".toList hmem
  rw [← String.toList_intercalate] at hoptions
  refine hoptions.trans ?_
  rw [Attribute.render, String.toList_append, String.toList_append]
  exact (List.suffix_append _ _).isInfix.trans (List.prefix_append _ _).isInfix

theorem exists_render_infix {m : Manifest} {classes : List Class} (h : Mapped.classes m = .ok classes)
    {e : Entity} (he : e ∈ m.entities) {f : ScalarField} (hf : f ∈ e.scalarFields) :
    ∃ code a, moduleText m = .ok code ∧ Attribute.ofField e f = .ok a ∧ a.render.toList <:+: code.toList := by
  obtain ⟨c, hc, hofEntity⟩ := exists_ok_of_mem h he
  obtain ⟨declared, hdeclared, rfl⟩ := bind_pure_eq_ok.mp hofEntity
  obtain ⟨a, hmem, ha⟩ := exists_ok_of_mem hdeclared hf
  refine ⟨_, a, moduleText_eq_ok.mpr ⟨classes, h, rfl⟩, ha, ?_⟩
  obtain ⟨head, hsource⟩ := source_eq m classes
  have hline : "    " ++ a.render ∈ head ++ ["class Base(DeclarativeBase):", "    pass"] ++
      classes.flatMap (fun c => "" :: "" :: c.lines) ++ [""] := by
    refine List.mem_append_left _ (List.mem_append_right _ (List.mem_flatMap.mpr ⟨_, hc, ?_⟩))
    have hattribute : a ∈ (if e.needsSyntheticKey then [syntheticKey] else []) ++ declared ++
        e.addedTimestamps.map timestamp := List.mem_append_left _ (List.mem_append_right _ hmem)
    simp only [Class.lines, List.mem_cons, List.mem_append]
    exact .inr (.inr (.inr (List.mem_map_of_mem (f := fun a => "    " ++ a.render) hattribute)))
  have hinfix := Text.infix_intercalate "\n".toList (List.mem_map_of_mem (f := String.toList) hline)
  rw [hsource, String.toList_intercalate]
  rw [String.toList_append] at hinfix
  exact (List.suffix_append _ _).isInfix.trans hinfix

end Mapped

namespace Sql

/-! ## Literals of defaults -/

theorem default_mem_iff {e : Entity} {f : ScalarField} {col : Column} (h : Column.ofField e f = .ok col)
    {d : String} : .default d ∈ col.constraints ↔
      e.isPrimaryKey f = false ∧ ∃ v, f.default = some v ∧ literal v = .ok d := by
  rw [Column.ofField_eq] at h
  by_cases hkey : e.isPrimaryKey f
  · rw [if_pos hkey] at h
    cases h
    simp [hkey]
  · rw [if_neg hkey] at h
    obtain ⟨defaults, hdefaults, rfl⟩ := map_eq_ok.mp h
    unfold defaultConstraints at hdefaults
    split at hdefaults
    · rename_i v hv
      obtain ⟨d', hliteral, rfl⟩ := map_eq_ok.mp hdefaults
      simpa [hkey, hv, hliteral] using eq_comm
    · rename_i hv
      cases hdefaults
      simp [hv]

theorem default_suffix_render {e : Entity} {f : ScalarField} {col : Column} (h : Column.ofField e f = .ok col)
    {d : String} (hd : .default d ∈ col.constraints) : ("DEFAULT " ++ d).toList <:+ col.render.toList := by
  obtain ⟨hkey, v, hv, hliteral⟩ := (default_mem_iff h).mp hd
  rw [Column.ofField_eq, hkey, if_neg Bool.false_ne_true, defaultConstraints, hv] at h
  simp only [hliteral] at h
  cases h
  rw [Column.render, String.toList_intercalate, List.map_append, List.map_singleton, ← List.cons_append,
    ← List.cons_append, List.map_append]
  exact Text.last_suffix_intercalate _ _ _

/-- **Quoted defaults.** The literal of a text, a list or a mapping reads back as that text or as the JSON
of the value, with all that stands behind it left over, exactly when no quote stands there. In a migration
none does, so the default of a column ends with its literal. -/
theorem literal_reads_back {v : Value} {d : String} (hquoted : isQuoted v) (hd : literal v = .ok d) :
    ∃ s, content v = .ok s ∧
      (∀ rest, readText (d.toList ++ rest) = some (s.toList, rest) ↔ rest.head? ≠ some '\'') ∧
      ∀ {m : Manifest} {t : Moment} {sql : String} {e : Entity} {f : ScalarField},
        migrationText m t = .ok sql → e ∈ m.entities → f ∈ e.scalarFields → e.isPrimaryKey f = false →
        f.default = some v →
        ∃ col behind, Column.ofField e f = .ok col ∧ col.StandsIn sql.toList behind ∧
          ("DEFAULT " ++ d).toList <:+ col.render.toList ∧
          readText (d.toList ++ behind) = some (s.toList, behind) := by
  obtain ⟨s, hs, rfl⟩ := exists_quoted hd hquoted
  refine ⟨s, hs, readText_quoted_iff s, fun hsql he hf hkey hv => ?_⟩
  obtain ⟨col, behind, hcol, hstands⟩ := exists_standsIn hsql he hf
  have hdefault : .default (quoted s) ∈ col.constraints := (default_mem_iff hcol).mpr ⟨hkey, v, hv, hd⟩
  refine ⟨col, behind, hcol, hstands, default_suffix_render hcol hdefault, (readText_quoted_iff s behind).mpr ?_⟩
  intro hquote
  rcases hstands.boundary _ hquote with h | h <;> exact absurd h (by decide)

/-- Quotes at both ends of a text and of its parts, and in a key. -/
theorem literal_reads_back_nested :
    let default : Value := .list [.text "'", .ofFields [("it's", .text "''")]]
    let raw : Value := .ofFields [("id", .text "shop"), ("name", .text "Shop"), ("version", .text "1"),
      ("entities", .list [.ofFields [("name", .text "Item"), ("fields", .list [.ofFields [
        ("name", .text "tags"), ("kind", .text "json"), ("default", default)]])]])]
    let d := "'[\"''\", \x7b\"it''s\": \"''''\"\x7d]'"
    ∃ m sql e f col behind, Manifest.validate raw = .ok m ∧
      migrationText m ⟨⟨2024, 1, 1⟩, 0, 0, 0, 0, none⟩ = .ok sql ∧ m.entities = [e] ∧ e.scalarFields = [f] ∧
      literal default = .ok d ∧ Column.ofField e f = .ok col ∧ col.StandsIn sql.toList behind ∧
      ("DEFAULT " ++ d).toList <:+ col.render.toList ∧
      readText (d.toList ++ behind) = some ("[\"'\", \x7b\"it's\": \"''\"\x7d]".toList, behind) := by
  intro default raw d
  obtain ⟨m, hm, sql, hsql, e, he, f, hf, hkey, hdefault⟩ : ∃ m, Manifest.validate raw = .ok m ∧
      ∃ sql, migrationText m ⟨⟨2024, 1, 1⟩, 0, 0, 0, 0, none⟩ = .ok sql ∧ ∃ e, m.entities = [e] ∧
        ∃ f, e.scalarFields = [f] ∧ e.isPrimaryKey f = false ∧ f.default = some default :=
    ⟨_, rfl, _, rfl, _, rfl, _, rfl, by decide, rfl⟩
  obtain ⟨s, hs, -, hmigration⟩ := literal_reads_back (v := default) (d := d) rfl rfl
  obtain ⟨col, behind, hcol, hstands, hclause, hread⟩ :=
    hmigration hsql (he ▸ List.mem_singleton_self e) (hf ▸ List.mem_singleton_self f) hkey hdefault
  cases hs
  exact ⟨m, sql, e, f, col, behind, hm, hsql, he, hf, rfl, hcol, hstands, hclause, hread⟩

/-- **Default clauses.** Where a migration is written, so is the module of classes, and each scalar field has
its column in the one and its attribute in the other. The column has the literal of the field's default,
unless the field is the key, and the text of a server's default is the same literal. It is a constant exactly
when the default is no double without digits, and a bare word otherwise. -/
theorem default_clause_constant_iff {m : Manifest} {t : Moment} {sql : String} (h : migrationText m t = .ok sql)
    {e : Entity} (he : e ∈ m.entities) {f : ScalarField} (hf : f ∈ e.scalarFields) :
    ∃ col behind code a, Column.ofField e f = .ok col ∧ col.StandsIn sql.toList behind ∧
      Mapped.moduleText m = .ok code ∧ Mapped.Attribute.ofField e f = .ok a ∧
      a.render.toList <:+: code.toList ∧
      (∀ d, .default d ∈ col.constraints ↔
        e.isPrimaryKey f = false ∧ ∃ v, f.default = some v ∧ literal v = .ok d) ∧
      (∀ d, .default d ∈ col.constraints → ("DEFAULT " ++ d).toList <:+ col.render.toList) ∧
      (∀ l, .serverDefault l ∈ a.options → ("server_default=text(" ++ l ++ ")").toList <:+: a.render.toList ∧
        ∃ d, Text.readLiteral l = some d ∧ .default d ∈ col.constraints) ∧
      ∀ v d, f.default = some v → literal v = .ok d →
        (Constant d.toList ↔ hasConstant v) ∧ (hasConstant v = false → d ∈ words) := by
  obtain ⟨col, behind, hcol, hstands⟩ := exists_standsIn h he hf
  obtain ⟨groups, hgroups, -⟩ := migrationText_eq_ok.mp h
  obtain ⟨classes, hclasses⟩ := exists_mappedClasses hgroups
  obtain ⟨code, a, hcode, ha, hinfix⟩ := Mapped.exists_render_infix hclasses he hf
  obtain ⟨a', ha', hsame⟩ := SameColumn.ofField hcol
  obtain rfl : a = a' := Except.ok.inj (ha.symm.trans ha')
  refine ⟨col, behind, code, a, hcol, hstands, hcode, ha, hinfix, fun d => default_mem_iff hcol,
    fun d => default_suffix_render hcol, fun l hl => ⟨Mapped.serverDefault_infix_render hl, ?_⟩,
    fun v d hv hd => ⟨constant_literal_iff hd, literal_mem_words hd⟩⟩
  obtain ⟨d, hread, hdefault⟩ := hsame.default l hl
  exact ⟨d, hread, (hdefault d).mpr rfl⟩

/-- A double with an exponent. -/
theorem default_clause_constant_price :
    let text := ("\x7b\"id\": \"s\", \"name\": \"S\", \"version\": \"1\", \"entities\": [\x7b\"name\": \"Item\"" ++
      ", \"fields\": [\x7b\"name\": \"price\", \"kind\": \"number\", \"default\": -2.5e-10\x7d]\x7d]\x7d").toList
    ∃ raw m sql e f col behind, Json.read text = .ok raw ∧ Manifest.validate raw = .ok m ∧
      migrationText m ⟨⟨2024, 1, 1⟩, 0, 0, 0, 0, none⟩ = .ok sql ∧ e ∈ m.entities ∧ f ∈ e.scalarFields ∧
      Column.ofField e f = .ok col ∧ col.StandsIn sql.toList behind ∧
      "DEFAULT -2.5e-10".toList <:+ col.render.toList ∧ Constant "-2.5e-10".toList := by
  rw [String.toList_append, String.toList_ofList, String.toList_ofList]
  intro text
  obtain ⟨raw, hread, m, hm, sql, hsql, e, he, f, hf, hkey, v, hv, hd, hconstant⟩ :
      ∃ raw ∈ (Json.read text).toOption, ∃ m ∈ (Manifest.validate raw).toOption,
      ∃ sql ∈ (migrationText m ⟨⟨2024, 1, 1⟩, 0, 0, 0, 0, none⟩).toOption,
      ∃ e ∈ m.entities, ∃ f ∈ e.scalarFields, e.isPrimaryKey f = false ∧
        ∃ v ∈ f.default, "-2.5e-10" ∈ (literal v).toOption ∧ hasConstant v = true := by decide +kernel
  rw [mem_toOption] at hread hm hsql hd
  obtain ⟨col, behind, _, _, hcol, hstands, -, -, -, hdefaults, hclause, -, hconstants⟩ :=
    default_clause_constant_iff hsql he hf
  have hdefault := (hdefaults "-2.5e-10").mpr ⟨hkey, v, hv, hd⟩
  exact ⟨raw, m, sql, e, f, col, behind, hread, hm, hsql, he, hf, hcol, hstands, hclause _ hdefault,
    (hconstants v _ hv hd).1.mpr hconstant⟩

/-- The default of a double without digits is a bare word. -/
theorem default_clause_of_nan :
    let text := ("\x7b\"id\": \"s\", \"name\": \"S\", \"version\": \"1\", \"entities\": [\x7b\"name\": \"Item\"" ++
      ", \"fields\": [\x7b\"name\": \"price\", \"kind\": \"number\", \"default\": NaN\x7d]\x7d]\x7d").toList
    ∃ raw m sql e f col behind, Json.read text = .ok raw ∧ Manifest.validate raw = .ok m ∧
      migrationText m ⟨⟨2024, 1, 1⟩, 0, 0, 0, 0, none⟩ = .ok sql ∧ e ∈ m.entities ∧ f ∈ e.scalarFields ∧
      Column.ofField e f = .ok col ∧ col.StandsIn sql.toList behind ∧ .default "nan" ∈ col.constraints ∧
      "DEFAULT nan".toList <:+ col.render.toList ∧ ¬ Constant "nan".toList := by
  rw [String.toList_append, String.toList_ofList, String.toList_ofList]
  intro text
  obtain ⟨raw, hread, m, hm, sql, hsql, e, he, f, hf, hkey, v, hv, hd⟩ :
      ∃ raw ∈ (Json.read text).toOption, ∃ m ∈ (Manifest.validate raw).toOption,
      ∃ sql ∈ (migrationText m ⟨⟨2024, 1, 1⟩, 0, 0, 0, 0, none⟩).toOption,
      ∃ e ∈ m.entities, ∃ f ∈ e.scalarFields, e.isPrimaryKey f = false ∧
        ∃ v ∈ f.default, "nan" ∈ (literal v).toOption := by decide +kernel
  rw [mem_toOption] at hread hm hsql hd
  obtain ⟨col, behind, hcol, hstands⟩ := exists_standsIn hsql he hf
  have hdefault := (default_mem_iff hcol).mpr ⟨hkey, v, hv, hd⟩
  exact ⟨raw, m, sql, e, f, col, behind, hread, hm, hsql, he, hf, hcol, hstands, hdefault,
    default_suffix_render hcol hdefault, not_constant_of_word (by decide)⟩

end Sql

end Scaffold
