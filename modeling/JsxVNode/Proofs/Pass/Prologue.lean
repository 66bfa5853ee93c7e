import JsxVNode.Proofs.Imports.Declarations
import JsxVNode.Proofs.Pass.Faults
import JsxVNode.Proofs.Pass.Frame
import JsxVNode.Proofs.Pass.MarkupFree

/-!
# The directive prologue of a compiled program

A body may begin with directives such as `"use strict"`, which are statements that have
a meaning by their position alone. The pass leaves them as they are, and no other
statement becomes one. The declarations that it injects stand before them: a program
that needs something from the runtime has its directives right behind the declarations,
where they are directives no more.
-/

namespace JsxVNode

/-- Whether a statement can be a directive: its expression is a string literal. -/
def Node.isDirectiveStatement : Node → Bool
  | .form ⟨.expressionStatement, _, _⟩ [expr] => expr.isString
  | _ => false

/-- The directives that a list of statements begins with. -/
def Node.leadingDirectives (nodes : List Node) : List Node :=
  nodes.takeWhile Node.isDirectiveStatement

/-- The directives that a program begins with. -/
def Program.prologue (program : Program) : List Node := Node.leadingDirectives program.body

/-- A directive is a string, so there is no markup in it. -/
theorem Node.markupFree_of_isDirectiveStatement {node : Node}
    (h : node.isDirectiveStatement = true) : node.MarkupFree := by
  unfold Node.isDirectiveStatement at h
  split at h
  · rename_i expr
    cases expr with
    | lit value => rfl
    | _ => cases h
  · cases h

/-- Markup becomes a call, so that no string comes to stand where none was. -/
theorem Node.isString_visit (ctx : Context) (node : Node) (pass : Pass) :
    (pass.exec (node.visit ctx)).1.isString = node.isString := by
  cases node with
  | jsx markup =>
    exact Jsx.replace_satisfies (Q := (·.isString = false)) (fun _ => rfl) (fun _ _ => rfl) ctx _ _
  | _ => rfl

/-- Only an expression statement can be a directive. -/
theorem Node.isDirectiveStatement_form_of_ne {form : Form} (hf : form ≠ .expressionStatement)
    (span : Span) (data : List (String × Datum)) (parts : List Node) :
    (Node.form ⟨form, span, data⟩ parts).isDirectiveStatement = false := by
  unfold Node.isDirectiveStatement
  split
  · rename_i he
    cases he
    exact absurd rfl hf
  · rfl

/-- A visit turns nothing into a directive, and no directive into anything else. -/
theorem Node.isDirectiveStatement_visit (ctx : Context) (node : Node) (pass : Pass) :
    (pass.exec (node.visit ctx)).1.isDirectiveStatement = node.isDirectiveStatement := by
  cases node with
  | form label parts =>
    obtain ⟨form, span, data⟩ := label
    by_cases hf : form = .expressionStatement
    · subst hf
      match parts with
      | [] => rfl
      | [expr] => exact Node.isString_visit ctx expr pass
      | _ :: _ :: _ => rfl
    · exact (Node.isDirectiveStatement_form_of_ne hf _ _ _).trans
        (Node.isDirectiveStatement_form_of_ne hf _ _ _).symm
  | jsx markup =>
    exact Jsx.replace_satisfies (Q := (·.isDirectiveStatement = false)) (fun _ => rfl)
      (fun _ _ => rfl) ctx _ _
  | _ => rfl

/-- A visit leaves the directives in front as they are and adds none. -/
theorem Node.leadingDirectives_visitAll (ctx : Context) (nodes : List Node) (pass : Pass) :
    Node.leadingDirectives (pass.exec (Node.visitAll ctx nodes)).1 =
      Node.leadingDirectives nodes := by
  induction nodes generalizing pass with
  | nil => rfl
  | cons node nodes ih =>
    have hrest := ih (pass.exec (node.visit ctx)).2
    have hnode := Node.isDirectiveStatement_visit ctx node pass
    change ((pass.exec (node.visit ctx)).1 ::
      ((pass.exec (node.visit ctx)).2.exec (Node.visitAll ctx nodes)).1).takeWhile _ = _
    unfold Node.leadingDirectives at hrest ⊢
    cases hd : node.isDirectiveStatement with
    | true =>
      have hfree := Node.markupFree_of_isDirectiveStatement hd
      rw [List.takeWhile_cons_of_pos (hnode.trans hd), List.takeWhile_cons_of_pos hd, hrest,
        Node.MarkupFree.exec_visit ctx node pass hfree]
    | false =>
      rw [List.takeWhile_cons_of_neg (by rw [hnode, hd]; decide),
        List.takeWhile_cons_of_neg (by rw [hd]; decide)]

namespace Imports

/-- No declaration is a directive. -/
theorem isDirectiveStatement_of_mem_loads {imports : Imports} {kind : ProgramKind} {load : Node}
    (h : load ∈ imports.loads kind) : load.isDirectiveStatement = false := by
  obtain ⟨source, _, rfl⟩ := List.mem_map.mp h
  cases kind with
  | module => rfl
  | script =>
    change (requireDeclaration source _).isDirectiveStatement = false
    unfold requireDeclaration
    dsimp only
    split <;> rfl

/-- Imports that requests led to are empty exactly if nothing is declared. -/
theorem WellFormed.declarations_eq_nil_iff_isEmpty {imports : Imports} (h : imports.WellFormed)
    (kind : ProgramKind) : imports.declarations kind = [] ↔ imports.isEmpty = true := by
  rw [Imports.declarations_eq_nil_iff, isEmpty, Bool.and_eq_true, List.isEmpty_iff]
  refine (and_iff_left_of_imp fun hentries => ?_).symm
  cases hs : imports.slotTest with
  | none => rfl
  | some name => exact absurd hentries (h.slotTest (by rw [hs, Option.isSome_some]))

/-- Behind a declaration there are no directives. -/
theorem leadingDirectives_declarations_append {imports : Imports} {kind : ProgramKind}
    (hne : imports.declarations kind ≠ []) (items : List Node) :
    Node.leadingDirectives (imports.declarations kind ++ items) = [] := by
  have hentries : imports.entries ≠ [] := fun he =>
    hne ((imports.declarations_eq_nil_iff kind).mpr he)
  rw [declarations_eq]
  cases hl : imports.loads kind with
  | nil =>
    have hperm := imports.loadedImports_loads kind
    rw [hl] at hperm
    exact absurd hperm.nil_eq.symm hentries
  | cons load loads =>
    have hload := isDirectiveStatement_of_mem_loads
      (hl ▸ List.mem_cons_self : load ∈ imports.loads kind)
    exact List.takeWhile_cons_of_neg (by rw [hload]; decide)

end Imports

namespace Program

/-- Where the directives of a program are after its compilation: `items` are its own statements,
which stand behind the declarations. -/
structure PrologueBehind (options : Options) (annotate : Bool) (program : Program)
    (items : List Node) : Prop where
  /-- The items stand behind the declarations of the requested imports. -/
  output : (program.compile options annotate).program = { program with
    body := (program.requestedImports options annotate).declarations program.kind ++ items }
  /-- The items begin with the very directives that the program begins with. -/
  items : Node.leadingDirectives items = program.prologue
  /-- Nothing is declared exactly if nothing is requested. -/
  declared : (program.requestedImports options annotate).declarations program.kind = [] ↔
    (program.requestedImports options annotate).isEmpty = true
  /-- They are the directives of the compiled program if nothing is requested, and otherwise the
  compiled program has none. -/
  prologue : (program.compile options annotate).program.prologue =
    if (program.requestedImports options annotate).isEmpty then program.prologue else []

/-- A program that compiles keeps the directives it begins with, unchanged and in their order, right
behind the declarations of what it needs from the runtime. They are still directives exactly if
there are no such declarations. -/
theorem compile_prologue (options : Options) (annotate : Bool) (program : Program) (count : Nat)
    (h : (program.compile options annotate).result = .ok count) :
    ∃ items, program.PrologueBehind options annotate items := by
  have hf := fault_eq_none_of_result h
  have hitems := Node.leadingDirectives_visitAll (program.context options annotate) program.body
    ⟨.new (program.context options annotate), 0, none⟩
  have hwell : (program.requestedImports options annotate).WellFormed := by
    obtain ⟨requests, hr⟩ := Node.kept_visitAll
      (Pass.kept_importsRequested (program.context options annotate)) program.body
      ⟨.new (program.context options annotate), 0, none⟩
    rw [requestedImports, visited, hr]
    exact (Imports.wellFormed_new _ _).serveAll requests
  have houtput : (program.compile options annotate).program = { program with
      body := (program.requestedImports options annotate).declarations program.kind ++
        (program.visited options annotate).1 } := by
    rw [compile_of_fault_eq_none hf]
    rfl
  have hdeclared := hwell.declarations_eq_nil_iff_isEmpty program.kind
  refine ⟨(program.visited options annotate).1, houtput, hitems, hdeclared, ?_⟩
  rw [houtput, prologue]
  split
  · rename_i hempty
    rw [hdeclared.mpr hempty]
    exact hitems
  · rename_i hempty
    exact Imports.leadingDirectives_declarations_append (fun hn => hempty (hdeclared.mp hn)) _

/-- The directive `"use strict"`. -/
def useStrict : Node := .plain .expressionStatement [.str "use strict"]

/-- The script `"use strict"; <div/>`. -/
def strictScript : Program where
  kind := .script
  span := .dummy
  interpreter := none
  body := [useStrict, .plain .expressionStatement [.jsx (.element .dummy (sample.tag "div") [] []
    none)]]

/-- Its directive is kept behind the declaration of the node factory. -/
theorem strictScript_compile_prologue :
    (strictScript.compile .default false).result = .ok 1 ∧ strictScript.prologue = [useStrict] ∧
      ∃ items, strictScript.PrologueBehind .default false items :=
  ⟨rfl, rfl, compile_prologue .default false strictScript 1 rfl⟩

/-- It begins with a directive, and what it compiles to begins with a declaration instead. -/
theorem strictScript_loses_prologue :
    strictScript.prologue = [useStrict] ∧
      (strictScript.compile .default false).result = .ok 1 ∧
      (strictScript.compile .default false).program.prologue = [] ∧
      ¬ strictScript.prologue <+: (strictScript.compile .default false).program.body := by
  refine ⟨rfl, rfl, rfl, ?_⟩
  rintro ⟨rest, hrest⟩
  have hhead := congrArg List.head? hrest
  cases Option.some.inj hhead

end Program

end JsxVNode
