import Scaffold.Proofs.Generation.Artifacts
import Scaffold.Proofs.Manifest.Keys
import Scaffold.Proofs.Manifest.Validation
import Scaffold.Proofs.Page.Guarded

/-!
# Names in admin pages
-/

namespace Scaffold

namespace Node.Puts

variable {s : Scope} {ns : List Node} {ps : List Put} {own : Nat}

theorem joined {es : List Expr} {ts : List String} {t : String} (hes : Expr.evalParts s es = .ok ts)
    (ht : String.join ts = t) (h : Puts s ns ps own) :
    Puts s (.scriptString (.concat es) :: ns) (.inScript t :: ps) own := by
  have hput : (Expr.filtered .scriptString (.concat es)).put s = .ok (.inScript t) := by
    rw [Expr.put, Expr.value, Expr.eval, hes, ← ht]; rfl
  exact put hput h

end Node.Puts

namespace Admin

def shownColumns (e : Entity) : List String := (e.scalarFields.map (·.name)).take columnLimit

def scope (e : Entity) : Scope := .ofEntries (context e)

/-! ## Lists and tables -/

def listPuts (e : Entity) : List Put :=
  .escaped e.name :: .escaped e.name :: ((shownColumns e).map .escaped ++ [
    .inScript ("/api/" ++ e.routeSegment), .asData (shownColumns e), .inScript e.primaryKey,
    .inScript ("No " ++ e.pageName ++ "s found."), .inScript ("Failed to load " ++ e.pageName ++ "s"),
    .inScript ("Are you sure you want to delete this " ++ e.pageName ++ "?")])

def tablePuts (e : Entity) : List Put := .asIs e.pageName :: (shownColumns e).map .escaped

theorem put_columns (e : Entity) :
    (Expr.filtered .script (.entity "columns")).put (scope e) = .ok (.asData (shownColumns e)) := by
  have htakes : Filter.script.takes (.list .text) := rfl
  obtain ⟨t, ht⟩ := Filter.apply_of_takes htakes (Shape.fits_texts (shownColumns e))
  have hvalue : (Expr.entity "columns").value (scope e) = .ok (.ofTexts (shownColumns e)) := rfl
  rw [Expr.put, hvalue]
  exact congrArg (· >>= fun _ => pure (Put.asData (shownColumns e))) ht

theorem puts_columns {e : Entity} {ns : List Node} {ps : List Put} {own : Nat} {before behind : String}
    (hbefore : Text.openings before = 1) (hbehind : Text.openings behind = 1)
    (h : Node.Puts (scope e) ns ps own) :
    Node.Puts (scope e) (.each "column" (.entity "columns")
        [.text before, .escaped (.name "column"), .text behind] :: ns)
      ((shownColumns e).map .escaped ++ ps) (2 * (shownColumns e).length + own) := by
  have hvalue : (Expr.entity "columns").value (scope e) = .ok (.list ((shownColumns e).map .text)) := rfl
  have hcell (n : String) (last : Bool) : Node.Puts ((scope e).bind "column" (.text n) last)
      [.text before, .escaped (.name "column"), .text behind] [.escaped n] 2 := by
    have htexts := Node.Puts.text (t := before) <| .put (s := (scope e).bind "column" (.text n) last)
      (e := .filtered .escape (.name "column")) (p := .escaped n) rfl <| .text (t := behind) .nil
    rwa [hbefore, hbehind] at htexts
  have hall := Node.Puts.each hvalue (fun n _ last => hcell n last) h
  rwa [← List.map_eq_flatMap, List.map_const', List.sum_replicate_nat, Nat.mul_comm] at hall

theorem puts_listPage (e : Entity) : Node.Puts (scope e) Page.listPage (listPuts e)
    (Node.ownOpenings Page.listPage + 2 * (shownColumns e).length) := by
  have hholes : Page.listPage.filter (!·.isText) = [.escaped (.entity "name"), .escaped (.entity "name"),
      .each "column" (.entity "columns")
        [.text "            <th>", .escaped (.name "column"), .text "</th>\n"],
      .scriptString (.concat [.constant "/api/", .entity "plural"]), .script (.entity "columns"),
      .scriptString (.entity "primary_key"),
      .scriptString (.concat [.constant "No ", .entity "lower", .constant "s found."]),
      .scriptString (.concat [.constant "Failed to load ", .entity "lower", .constant "s"]),
      .scriptString (.concat
        [.constant "Are you sure you want to delete this ", .entity "lower", .constant "?"])] := rfl
  refine .of_holes ?_
  rw [hholes]
  refine .put rfl <| .put rfl (?_ : Node.Puts _ _ _ (_ + 0))
  refine puts_columns rfl rfl ?_
  exact .joined rfl rfl <| .put (put_columns e) <| .put rfl <| .joined rfl rfl <| .joined rfl rfl <|
    .joined rfl rfl .nil

theorem puts_tablePart (e : Entity) : Node.Puts (scope e) Page.tablePart (tablePuts e)
    (Node.ownOpenings Page.tablePart + 2 * (shownColumns e).length) := by
  have hholes : Page.tablePart.filter (!·.isText) = [.put (.entity "lower"),
      .each "column" (.entity "columns")
        [.text "      <th>", .escaped (.name "column"), .text "</th>\n"]] := rfl
  have hputs : tablePuts e = .asIs e.pageName :: ((shownColumns e).map .escaped ++ []) := by
    rw [List.append_nil]; rfl
  refine .of_holes ?_
  rw [hholes, hputs]
  exact .put rfl <| puts_columns rfl rfl .nil

/-! ## Forms -/

def inputTypePuts : ScalarKind → List Put
  | .boolean | .json => []
  | k => [.asIs (inputType k)]

/-- How many tags an input has: a text area is closed by one of its own. -/
def inputOpenings : ScalarKind → Nat
  | .json => 2
  | _ => 1

def formFieldPuts (f : ScalarField) : List Put :=
  [.escaped f.name, .escaped f.name] ++
    (inputTypePuts f.kind ++ [.escaped f.name, .escaped f.name, .asIs f.kind.name])

def formPuts (e : Entity) : List Put := .asIs e.pageName :: e.writableFields.flatMap formFieldPuts

theorem puts_when {s : Scope} {c : Condition} {t : String} {b : Bool} (hc : c.eval s = .ok b)
    (ht : Text.openings t = 0) {ns : List Node} {ps : List Put} {own : Nat} (h : Node.Puts s ns ps own) :
    Node.Puts s (.when c [.text t] :: ns) ps own := by
  have hb : Node.Puts s (if b then [.text t] else []) [] 0 := by
    cases b
    · exact .nil
    · have htext := Node.Puts.text (t := t) (s := s) .nil
      rwa [ht] at htext
  have hwhen := Node.Puts.branch hc hb h
  rwa [List.nil_append, Nat.zero_add] at hwhen

theorem eval_isTrue {s : Scope} {e : Expr} {v : Value} (h : e.value s = .ok v) :
    ∃ b, (Condition.isTrue e).eval s = .ok b := by
  obtain ⟨found, hfound, h⟩ := bind_eq_ok.mp h
  cases found with
  | undefined fault => cases h
  | value w => cases w <;> exact ⟨_, by rw [Condition.eval, hfound]; rfl⟩

def repeatedBody : List Node → List Node
  | [] => []
  | .each _ _ body :: _ => body
  | _ :: ns => repeatedBody ns

theorem puts_formBody (e : Entity) (f : ScalarField) (last : Bool) :
    Node.Puts ((scope e).bind "field" (fieldContext true f) last) (repeatedBody Page.formPart) (formFieldPuts f)
      (4 + inputOpenings f.kind) := by
  obtain ⟨b, hdefault⟩ : ∃ b, (Condition.isTrue (.field "default")).eval
      ((scope e).bind "field" (fieldContext true f) last) = .ok b := eval_isTrue rfl
  have hrequired : (Condition.holds (.field "required")).eval
      ((scope e).bind "field" (fieldContext true f) last) = .ok f.isRequired := rfl
  obtain ⟨info, kind⟩ := f
  refine .of_holes (?_ : Node.Puts _ _ _ (inputOpenings kind))
  cases kind with
  | boolean =>
    refine .put rfl <| .put rfl <| .last_yes rfl <| .of_holes_eq ?_ rfl
    exact .put rfl <| .put rfl <| .put rfl <| puts_when hdefault rfl .nil
  | json =>
    refine .put rfl <| .put rfl <| .last_no rfl <| .last_yes rfl <| .of_holes_eq ?_ rfl
    exact .put rfl <| .put rfl <| .put rfl <| puts_when hrequired rfl .nil
  | id | uuid | string | number | date =>
    refine .put rfl <| .put rfl <| .last_no rfl <| .last_no rfl <| .of_holes_eq ?_ rfl
    exact .put rfl <| .put rfl <| .put rfl <| .put rfl <| puts_when hrequired rfl .nil

theorem puts_formPart (e : Entity) : Node.Puts (scope e) Page.formPart (formPuts e)
    (Node.ownOpenings Page.formPart + (e.writableFields.map fun f => 4 + inputOpenings f.kind).sum) := by
  have hholes : Page.formPart.filter (!·.isText) =
      [.put (.entity "lower"), .each "field" (.entity "form_fields") (repeatedBody Page.formPart)] := rfl
  have hfields : (Expr.entity "form_fields").value (scope e) =
      .ok (.list (e.writableFields.map (fieldContext true))) := rfl
  have heach := Node.Puts.each hfields (fun f _ last => puts_formBody e f last) .nil
  rw [List.append_nil, Nat.add_zero] at heach
  refine .of_holes ?_
  rw [hholes]
  exact .put rfl heach

def newPuts (e : Entity) : List Put :=
  .escaped e.name :: .escaped e.name :: (formPuts e ++ [.asIs e.pageName,
    .inScript ("/api/" ++ e.routeSegment), .inScript e.primaryKey, .inScript (e.pageName ++ "-form"),
    .inScript ("Failed to create " ++ e.pageName)])

theorem puts_newPage (e : Entity) : Node.Puts (scope e) Page.newPage (newPuts e)
    (Node.ownOpenings Page.newPage + (Node.ownOpenings Page.formPart +
      (e.writableFields.map fun f => 4 + inputOpenings f.kind).sum)) := by
  have hholes : Page.newPage.filter (!·.isText) = [.escaped (.entity "name"), .escaped (.entity "name"),
      .indented 6 Page.formPart, .put (.entity "lower"),
      .scriptString (.concat [.constant "/api/", .entity "plural"]), .scriptString (.entity "primary_key"),
      .scriptString (.concat [.entity "lower", .constant "-form"]),
      .scriptString (.concat [.constant "Failed to create ", .entity "lower"])] := rfl
  refine .of_holes ?_
  rw [hholes]
  refine .put rfl <| .put rfl (?_ : Node.Puts _ _ _ (_ + 0))
  refine .indented (puts_formPart e) ?_
  exact .put rfl <| .joined rfl rfl <| .put rfl <| .joined rfl (by simp [Value.plain]) <| .joined rfl rfl .nil

/-! ## Details -/

def detailFieldPuts (e : Entity) (f : ScalarField) : List Put :=
  .escaped f.name :: .escaped f.name ::
    if (e.writableFields.map (·.name)).contains f.name then
      inputTypePuts f.kind ++ [.escaped f.name, .asIs f.kind.name]
    else []

def detailPuts (e : Entity) : List Put :=
  .escaped e.name :: .escaped e.name :: (e.scalarFields.flatMap (detailFieldPuts e) ++ [
    .inScript ("/api/" ++ e.routeSegment), .inScript ("Failed to load " ++ e.pageName),
    .inScript ("Failed to update " ++ e.pageName),
    .inScript ("Are you sure you want to delete this " ++ e.pageName ++ "?")])

theorem puts_detailBody (e : Entity) (f : ScalarField) (last : Bool) :
    Node.Puts ((scope e).bind "field"
        (fieldContext ((e.writableFields.map (·.name)).contains f.name) f) last)
      (repeatedBody Page.detailPage) (detailFieldPuts e f)
      (6 + if (e.writableFields.map (·.name)).contains f.name then inputOpenings f.kind else 0) := by
  unfold detailFieldPuts
  obtain ⟨info, kind⟩ := f
  cases (e.writableFields.map (·.name)).contains info.name with
  | false => exact .of_holes <| .put rfl <| .put rfl <| .last_no rfl .nil
  | true =>
    refine .of_holes (?_ : Node.Puts _ _ _ (inputOpenings kind))
    cases kind with
    | boolean =>
      refine .put rfl <| .put rfl <| .last_yes rfl <| .last_yes rfl <| .of_holes_eq ?_ rfl
      exact .put rfl <| .put rfl .nil
    | json =>
      refine .put rfl <| .put rfl <| .last_yes rfl <| .last_no rfl <| .last_yes rfl <| .of_holes_eq ?_ rfl
      exact .put rfl <| .put rfl .nil
    | id | uuid | string | number | date =>
      refine .put rfl <| .put rfl <| .last_yes rfl <| .last_no rfl <| .last_no rfl <| .of_holes_eq ?_ rfl
      exact .put rfl <| .put rfl <| .put rfl .nil

theorem puts_detailPage (e : Entity) : Node.Puts (scope e) Page.detailPage (detailPuts e)
    (Node.ownOpenings Page.detailPage + (e.scalarFields.map fun f => 6 +
      if (e.writableFields.map (·.name)).contains f.name then inputOpenings f.kind else 0).sum) := by
  have hholes : Page.detailPage.filter (!·.isText) = [.escaped (.entity "name"), .escaped (.entity "name"),
      .each "field" (.entity "detail_fields") (repeatedBody Page.detailPage),
      .scriptString (.concat [.constant "/api/", .entity "plural"]),
      .scriptString (.concat [.constant "Failed to load ", .entity "lower"]),
      .scriptString (.concat [.constant "Failed to update ", .entity "lower"]),
      .scriptString (.concat
        [.constant "Are you sure you want to delete this ", .entity "lower", .constant "?"])] := rfl
  have hfields : (Expr.entity "detail_fields").value (scope e) = .ok (.list (e.scalarFields.map fun f =>
      fieldContext ((e.writableFields.map (·.name)).contains f.name) f)) := rfl
  refine .of_holes ?_
  rw [hholes]
  refine .put rfl <| .put rfl (?_ : Node.Puts _ _ _ (_ + 0))
  refine .each hfields (fun f _ last => puts_detailBody e f last) ?_
  exact .joined rfl rfl <| .joined rfl rfl <| .joined rfl rfl <| .joined rfl rfl .nil

/-! ## Kinds of fields -/

/-- What a client may write is of the kinds of all fields but the first one that identifies. -/
theorem writableKinds_eq {e : Entity} (h : (e.fields.map (·.name)).Nodup) :
    e.writableFields.map (·.kind) = (e.scalarFields.map (·.kind)).eraseP (·.isIdentity) := by
  rcases Entity.writableFields_cases h with ⟨before, k, after, hsplit, hname, hid, hwritable⟩ | ⟨hnone, hwritable⟩
  · have hnames := h.sublist e.scalarNames_sublist
    rw [hsplit, List.map_append, List.nodup_append] at hnames
    have hbefore : ∀ kind ∈ before.map (·.kind), ¬ kind.isIdentity := by
      intro kind hkind hidentity
      obtain ⟨f, hf, rfl⟩ := List.mem_map.mp hkind
      -- a field before the key that identifies would be the key
      obtain ⟨g, hg⟩ := Option.isSome_iff_exists.mp
        (List.find?_isSome (p := (·.kind.isIdentity)).mpr ⟨f, hf, hidentity⟩)
      have hkey := e.primaryKey_eq
      rw [hsplit, List.find?_append, hg] at hkey
      exact hnames.2.2 g.name (List.mem_map_of_mem (List.mem_of_find?_eq_some hg)) k.name (by simp)
        (hkey.symm.trans hname.symm)
    rw [hwritable, hsplit, List.map_append, List.map_append, List.eraseP_append_right _ hbefore, List.map_cons,
      List.eraseP_cons_of_pos hid]
  · rw [hwritable, List.eraseP_of_forall_not]
    intro kind hkind hidentity
    obtain ⟨f, hf, rfl⟩ := List.mem_map.mp hkind
    -- the first field that identifies is the key
    obtain ⟨g, hg⟩ := Option.isSome_iff_exists.mp (List.find?_isSome (p := (·.kind.isIdentity)).mpr ⟨f, hf, hidentity⟩)
    have hkey := e.primaryKey_eq
    rw [hg] at hkey
    have hgid := List.find?_some hg
    rw [hnone g (List.mem_of_find?_eq_some hg) hkey.symm] at hgid
    cases hgid

theorem sum_writable_eq {e : Entity} (h : (e.fields.map (·.name)).Nodup) (n : ScalarKind → Nat) :
    (e.scalarFields.map fun f =>
      if (e.writableFields.map (·.name)).contains f.name then n f.kind else 0).sum =
    (((e.scalarFields.map (·.kind)).eraseP (·.isIdentity)).map n).sum := by
  rw [← writableKinds_eq h, List.map_map]
  have hmem : ∀ f ∈ e.writableFields, (e.writableFields.map (·.name)).contains f.name = true :=
    fun f hf => by simpa using ⟨f, hf, rfl⟩
  have hsum (fs : List ScalarField) (hfs : ∀ f ∈ fs, f ∈ e.writableFields) : (fs.map fun f =>
      if (e.writableFields.map (·.name)).contains f.name then n f.kind else 0) = fs.map (n ·.kind) :=
    List.map_congr_left fun f hf => if_pos (hmem f (hfs f hf))
  rcases Entity.writableFields_cases h with ⟨before, k, after, hsplit, -, -, hwritable⟩ | ⟨-, hwritable⟩
  · have hk : (e.writableFields.map (·.name)).contains k.name = false := by
      have hnames := h.sublist e.scalarNames_sublist
      rw [hsplit, List.map_append, List.map_cons, List.nodup_middle, ← List.map_append, ← hwritable] at hnames
      simpa using (List.nodup_cons.mp hnames).1
    rw [hsplit, List.map_append, List.map_cons, hk, hsum before, hsum after, hwritable, List.map_append,
      List.sum_append, List.sum_append, List.sum_cons]
    · simp [Function.comp_def]
    · exact fun f hf => hwritable ▸ List.mem_append_right before hf
    · exact fun f hf => hwritable ▸ List.mem_append_left after hf
  · rw [hsum _ fun f hf => hwritable ▸ hf, hwritable]
    rfl

end Admin

end Scaffold
