import JsxVNode.Proofs.Compile.Construct
import JsxVNode.Proofs.Compile.FlagBits
import JsxVNode.Proofs.Compile.Uniform

/-!
# Comments do not interfere

Comments are only written. A compilation that annotates flags and one that does not go
through the same steps: from sessions with the same imports they give the same value or
the same fault and leave the same imports. The only step that adds a comment is the one
that writes a flag, and the text of the comment can be read back: the names in it are
those of flags whose union is the flag.
-/

namespace JsxVNode

/-- The same compilation without comments. -/
def Context.unannotated (ctx : Context) : Context := { ctx with annotate := false }

namespace Compile

variable {α β : Type}

/-- Two steps do the same except for comments: from sessions with the same imports they give the
same and leave the same imports. -/
def Matches (x y : Compile α) : Prop :=
  ∀ s t : Session, s.imports = t.imports →
    (outcome x s).1 = (outcome y t).1 ∧ (outcome x s).2.imports = (outcome y t).2.imports

/-- A step does the same whatever comments there are. -/
def IgnoresComments (x : Compile α) : Prop := Matches x x

/-- Steps that match one by one match when they are joined. -/
theorem Matches.bind {x y : Compile α} {f g : α → Compile β} (hx : Matches x y)
    (hf : ∀ a, Matches (f a) (g a)) : Matches (x >>= f) (y >>= g) := by
  intro s t hst
  have hfirst := hx s t hst
  rw [outcome_bind, outcome_bind]
  generalize outcome x s = first, outcome y t = second at hfirst ⊢
  obtain ⟨result, s'⟩ := first
  obtain ⟨_, t'⟩ := second
  obtain ⟨rfl, himports⟩ := hfirst
  cases result with
  | ok a => exact hf a s' t' himports
  | error fault => exact ⟨rfl, himports⟩

theorem ignoresComments_pure (a : α) : IgnoresComments (pure a) := fun _ _ h => ⟨rfl, h⟩

theorem ignoresComments_request (f : Imports → α × Imports) : IgnoresComments (request f) := by
  intro s t h
  rw [outcome_request, outcome_request, h]
  exact ⟨rfl, rfl⟩

/-- Nothing that the compiler does depends on the comments. -/
theorem steps_ignoresComments : Steps IgnoresComments where
  pure := ignoresComments_pure
  throw _ _ _ h := ⟨rfl, h⟩
  bind := Matches.bind
  comment _ _ _ _ h := ⟨rfl, h⟩
  get _ _ _ := ignoresComments_request _
  mergeProps := ignoresComments_request _
  transformOn := ignoresComments_request _
  isSlot := ignoresComments_request _
  factory := ignoresComments_request _

/-- A construction is the same with and without its comment. -/
theorem matches_construct (ctx : Context) (tag : Node) (props children : Option Node)
    (flag : PatchFlag) (names : Option NameSet) (span : Span) :
    Matches (construct ctx tag props children flag names span)
      (construct ctx.unannotated tag props children flag names span) := by
  intro s t h
  rw [outcome_construct, outcome_construct, h]
  exact ⟨rfl, rfl⟩

/-- An element is finished in the same way with comments and without. -/
theorem matches_finishElement (ctx : Context) (span : Span) (tag : ResolvedTag)
    (children : Children) (props : ElementProps) :
    Matches (finishElement ctx span tag children props)
      (finishElement ctx.unannotated span tag children props) := by
  refine (steps_ignoresComments.vnodeChildren ctx tag children.items props.slots).bind
    fun argument => ?_
  refine (matches_construct ctx _ _ _ _ _ span).bind fun node => ?_
  split
  · exact ignoresComments_pure _
  · exact (ignoresComments_request _).bind fun _ => ignoresComments_pure _

theorem matches_finishFragment (ctx : Context) (span : Span) (children : Children) :
    Matches (finishFragment ctx span children) (finishFragment ctx.unannotated span children) :=
  (ignoresComments_request _).bind fun _ => matches_construct ctx _ _ _ _ _ span

end Compile

open Compile

mutual

/-- Markup compiles alike with and without comments. -/
theorem Jsx.matches_compile (ctx : Context) (markup : Jsx) :
    Matches (markup.compile ctx) (markup.compile ctx.unannotated) := by
  cases markup with
  | element span opening attrs children closing =>
    rw [Jsx.compile, Jsx.compile]
    refine (steps_ignoresComments.resolveTag ctx opening.name).bind fun tag => ?_
    refine (Child.matches_compileAll ctx children).bind fun items => ?_
    refine (Attr.matches_compileAll ctx tag attrs _ attrs).bind fun state => ?_
    exact (steps_ignoresComments.finishProps state).bind fun props =>
      matches_finishElement ctx span tag items props
  | fragment span opening closing children =>
    exact (Child.matches_compileAll ctx children).bind fun items =>
      matches_finishFragment ctx span items

/-- Children compile to the same items with comments and without. -/
theorem Child.matches_compileAll (ctx : Context) (children : List Child) :
    Matches (Child.compileAll ctx children) (Child.compileAll ctx.unannotated children) := by
  cases children with
  | nil => exact ignoresComments_pure _
  | cons child children =>
    exact (Child.matches_compile ctx child).bind fun first =>
      (Child.matches_compileAll ctx children).bind fun rest => ignoresComments_pure _

theorem Child.matches_compile (ctx : Context) (child : Child) :
    Matches (child.compile ctx) (child.compile ctx.unannotated) := by
  cases child with
  | jsx markup => exact (Jsx.matches_compile ctx markup).bind fun _ => ignoresComments_pure _
  | _ => exact ignoresComments_pure _

/-- Attributes leave the same state with comments and without. -/
theorem Attr.matches_compileAll (ctx : Context) (tag : ResolvedTag) (all : List Attr)
    (state : PropsState) (attrs : List Attr) :
    Matches (Attr.compileAll ctx tag all state attrs)
      (Attr.compileAll ctx.unannotated tag all state attrs) := by
  cases attrs with
  | nil => exact ignoresComments_pure _
  | cons attr attrs =>
    exact (Attr.matches_compile ctx tag all state attr).bind fun next =>
      Attr.matches_compileAll ctx tag all next attrs

theorem Attr.matches_compile (ctx : Context) (tag : ResolvedTag) (all : List Attr)
    (state : PropsState) (attr : Attr) :
    Matches (attr.compile ctx tag all state) (attr.compile ctx.unannotated tag all state) := by
  cases attr with
  | named span name value =>
    exact (AttrValue.matches_compile ctx value).bind fun compiled =>
      steps_ignoresComments.applyAttr ctx span name value compiled tag all state
  | spread dots operand => exact ignoresComments_pure _

theorem AttrValue.matches_compile (ctx : Context) (value : AttrValue) :
    Matches (value.compile ctx) (value.compile ctx.unannotated) := by
  cases value with
  | jsx markup => exact (Jsx.matches_compile ctx markup).bind fun _ => ignoresComments_pure _
  | _ => exact ignoresComments_pure _

end

namespace PatchFlag

/-- The flag with the bits of several flags. -/
def union (flags : List PatchFlag) : PatchFlag := flags.foldl (· ||| ·) .none

/-- Names tell a flag: each is the name of a flag, and their union is the flag. -/
def ToldBy (flag : PatchFlag) (names : List String) : Prop :=
  ∃ flags, names.map ofName? = flags.map some ∧ union flags = flag

/-- The flags that a flag is named by, with their names. -/
def entries (flag : PatchFlag) : List (PatchFlag × String) :=
  ((sentinels.find? (·.1 == flag)).map ([·])).getD
    (named.filter fun entry => flag.contains entry.1)

/-- The names of a flag are those of its entries. -/
theorem names_eq_map_entries (flag : PatchFlag) : flag.names = flag.entries.map (·.2) := by
  unfold names entries
  cases sentinels.find? (·.1 == flag) <;> rfl

/-- A name in a comment stands for the flag that it was written for. -/
theorem ofName?_of_mem_entries {flag : PatchFlag} {entry : PatchFlag × String}
    (h : entry ∈ flag.entries) : ofName? entry.2 = some entry.1 := by
  have hall : ∀ entry ∈ named ++ sentinels, ofName? entry.2 = some entry.1 := by decide
  refine hall entry ?_
  unfold entries at h
  cases hs : sentinels.find? (·.1 == flag) with
  | none =>
    rw [hs, Option.map_none, Option.getD_none] at h
    exact List.mem_append_left sentinels (List.mem_of_mem_filter h)
  | some sentinel =>
    rw [hs, Option.map_some, Option.getD_some] at h
    rw [List.mem_singleton.mp h]
    exact List.mem_append_right named (List.mem_of_find?_eq_some hs)

/-- A flag that is the union of the flags it is named by is told by their names. -/
theorem toldBy_names {flag : PatchFlag} (h : union (flag.entries.map (·.1)) = flag) :
    flag.ToldBy flag.names := by
  refine ⟨flag.entries.map (·.1), ?_, h⟩
  rw [names_eq_map_entries, List.map_map, List.map_map]
  exact List.map_congr_left fun entry hentry => ofName?_of_mem_entries hentry

/-- A flag that attributes and children call for is told by its names. -/
theorem toldBy_ofBits (keys classes styles listed events visited stable : Bool) {flag : PatchFlag}
    (h : flag = ofBits [(keys, fullProps), (classes, classBinding), (styles, styleBinding),
      (listed, props), (events, hydrateEvents), (visited, needPatch), (stable, stableFragment)]) :
    flag.ToldBy flag.names := by
  subst h
  refine toldBy_names ?_
  revert keys classes styles listed events visited stable
  decide

/-- The flag of a fragment is told by its names. -/
theorem toldBy_ofFragment (count : Nat) (unanalyzable : Bool) :
    (ofFragment count unanalyzable).ToldBy (ofFragment count unanalyzable).names := by
  refine toldBy_names ?_
  unfold ofFragment
  split
  · decide
  · split <;> decide

end PatchFlag

/-- The flag of an element is told by its names. -/
theorem toldBy_elementFlag (tag : ResolvedTag) (children : Children) (props : ElementProps) :
    (elementFlag tag children props).ToldBy (elementFlag tag children props).names := by
  rcases elementFlag_eq_ofBits tag children props with hbail | ⟨_, _, _, _, _, hbits⟩
  · rw [hbail]
    exact PatchFlag.toldBy_names (by decide)
  · exact PatchFlag.toldBy_ofBits _ _ _ _ _ _ _ hbits

/-- The comments that annotate a call made of markup at a range. There is one if the call has a flag
and the markup has an end. It stands at that end, where the flag is written, and consists of names
that tell the flag. -/
inductive Node.Annotated (call : Node) (span : Span) : List Comment → Prop where
  | unflagged (hf : call.constructionFlag = .none) : Annotated call span []
  | unplaced (hf : call.constructionFlag ≠ .none) (hs : span.isDummy = true) :
      Annotated call span []
  | named (hf : call.constructionFlag ≠ .none) (hs : span.isDummy = false) {names : List String}
      (hnames : call.constructionFlag.ToldBy names)
      (hplace : call.constructionArg? 3 =
        some (.int call.constructionFlag.toInt (.point span.hi))) :
      Annotated call span [⟨span.hi, " " ++ ", ".intercalate names ++ " "⟩]

/-- The comments of a construction annotate the call. -/
theorem Node.annotated_annotation {ctx : Context} (ha : ctx.annotate = true) {call : Node}
    {flag : PatchFlag} {span : Span} {tag props children : Node} {names : Option NameSet}
    (hargs : call.constructionArgs =
      tag :: props :: children :: flagArgs flag span.flagPlace names)
    (ht : flag.ToldBy flag.names) : call.Annotated span (ctx.annotation flag span) := by
  have hflag := constructionFlag_of_args hargs
  unfold Context.annotation
  cases he : flag.isEmpty with
  | true => exact .unflagged (hflag.trans (beq_iff_eq.mp he))
  | false =>
    have hne : call.constructionFlag ≠ .none := by
      rw [hflag]
      exact fun h => absurd (beq_iff_eq.mpr h) (Bool.eq_false_iff.mp he)
    cases hs : span.isDummy with
    | true => exact .unplaced hne hs
    | false =>
      rw [ha]
      refine .named hne hs (hflag ▸ ht) ?_
      rw [constructionArg?, hargs, flagArgs, he, Span.flagPlace, hs, hflag]
      rfl

/-- The comments that an effect adds. -/
abbrev Effect.comments (effect : Effect) : Multiset Comment := effect.2.1

namespace Compile

variable {α β : Type}

/-- A step that returns leaves the comments as they are. -/
def KeepsComments (x : Compile α) : Prop :=
  ∀ s a s', Returns x s a s' → s'.comments = s.comments

theorem keepsComments_pure (a : α) : KeepsComments (pure a) := by
  intro s b s' h
  rw [(returns_pure_iff.mp h).2]

theorem keepsComments_request (f : Imports → α × Imports) : KeepsComments (request f) := by
  intro s a s' h
  rw [← (returns_request_iff.mp h).2]

/-- Two steps add no comments if neither of them does. -/
theorem KeepsComments.bind {x : Compile α} {f : α → Compile β} (hx : KeepsComments x)
    (hf : ∀ a, KeepsComments (f a)) : KeepsComments (x >>= f) := by
  intro s b s'' h
  obtain ⟨a, s', ha, hb⟩ := returns_bind_iff.mp h
  rw [hf a s' b s'' hb, hx s a s' ha]

/-- Only the step that adds a comment changes them. -/
theorem silentSteps_keepsComments : SilentSteps KeepsComments where
  pure := keepsComments_pure
  throw _ _ _ _ h := absurd h not_returns_throw
  bind := KeepsComments.bind
  get _ _ _ := keepsComments_request _
  transformOn := keepsComments_request _
  isSlot := keepsComments_request _
  factory := keepsComments_request _

/-- Finishing the props argument adds no comments. -/
theorem keepsComments_finishProps (state : PropsState) : KeepsComments (finishProps state) :=
  (keepsComments_request _).bind fun _ => keepsComments_pure _

variable {ctx : Context} {x : Compile α} {a a' : α} {e e' : Effect}

/-- The comments of an effect are those of a run from the start. -/
theorem Gives.exists_comments_eq (h : Gives ctx x a e) :
    ∃ s, Returns x (.new ctx) a s ∧ e.comments = ↑s.comments := by
  obtain ⟨requests, comments, hr, rfl⟩ := h _ (Session.served_new ctx)
  exact ⟨_, hr, rfl⟩

/-- A step adds the same comments from every session. -/
theorem Gives.comments_unique (h : Gives ctx x a e) (h' : Gives ctx x a' e') :
    e.comments = e'.comments := by
  obtain ⟨s, hr, hc⟩ := h.exists_comments_eq
  obtain ⟨s', hr', hc'⟩ := h'.exists_comments_eq
  cases hr.symm.trans hr'
  rw [hc, hc']

/-- A step that adds no comments has none in its effect. -/
theorem Gives.comments_of_keeps (h : Gives ctx x a e) (hx : KeepsComments x) : e.comments = 0 := by
  obtain ⟨s, hr, hc⟩ := h.exists_comments_eq
  rw [hc, hx _ _ _ hr]
  rfl

/-- The comments of two steps are those of the first and those of the second. -/
theorem Gives.exists_comments_of_bind {f : α → Compile β} {b : β} (h : Gives ctx (x >>= f) b e)
    (hx : Uniform ctx x) (hf : ∀ a, Uniform ctx (f a)) :
    ∃ a e₁ e₂, Gives ctx x a e₁ ∧ Gives ctx (f a) b e₂ ∧
      e.comments = e₁.comments + e₂.comments := by
  obtain ⟨a, e₁, e₂, ha, hb⟩ := h.exists_of_bind hx hf
  exact ⟨a, e₁, e₂, ha, hb, h.comments_unique (ha.bind hb)⟩

/-- The comments of an element that is put together annotate its call. -/
theorem Gives.exists_annotated_finishElement (ha : ctx.annotate = true) {span : Span}
    {tag : ResolvedTag} {children : Children} {props : ElementProps} {call : Node}
    (h : Gives ctx (finishElement ctx span tag children props) call e) :
    ∃ log : List Comment, call.Annotated span log ∧ e.comments = ↑log := by
  obtain ⟨s, hr, hc⟩ := h.exists_comments_eq
  obtain ⟨argument, t, factory, hargument, _, hcomments, _, happlies⟩ := exists_of_finishElement hr
  have ht : t.comments = [] :=
    silentSteps_keepsComments.vnodeChildren _ _ _ _ _ _ _ hargument
  refine ⟨_, Node.annotated_annotation ha happlies.constructionArgs
    (toldBy_elementFlag tag children props), ?_⟩
  rw [hc, hcomments, ht]
  rfl

/-- The comments of a fragment that is put together annotate its call. -/
theorem Gives.exists_annotated_finishFragment (ha : ctx.annotate = true) {span : Span}
    {children : Children} {call : Node}
    (h : Gives ctx (finishFragment ctx span children) call e) :
    ∃ log : List Comment, call.Annotated span log ∧ e.comments = ↑log := by
  obtain ⟨s, hr, hc⟩ := h.exists_comments_eq
  obtain ⟨tag, t, htag, hr⟩ := returns_bind_iff.mp hr
  have ht : t.comments = [] := keepsComments_request _ _ _ _ htag
  rw [Returns, outcome_construct] at hr
  cases hr
  refine ⟨_, Node.annotated_annotation ha (Node.constructionArgs_invoke _ _ _ _ _)
    (PatchFlag.toldBy_ofFragment _ _), ?_⟩
  rw [hc, ht]
  rfl

end Compile

variable {ctx : Context} {span : Span} {call : Node} {e : Effect}

/-- The comments of an element are those of its children and attributes and those that annotate its
call. -/
theorem Jsx.exists_annotated_element (ha : ctx.annotate = true) {opening : Opening}
    {attrs : List Attr} {children : List Child} {closing : Option Closing}
    (h : Gives ctx ((Jsx.element span opening attrs children closing).compile ctx) call e)
    {items : Children} {below : Effect}
    (hchildren : Gives ctx (Child.compileAll ctx children) items below)
    {beside : Multiset Comment}
    (hattrs : ∀ tag all state after e',
      Gives ctx (Attr.compileAll ctx tag all state attrs) after e' → e'.comments = beside) :
    ∃ log : List Comment, call.Annotated span log ∧
      e.comments = ↑log + (beside + below.comments) := by
  have hu := steps_uniform ctx
  have hfinish (tag : ResolvedTag) (items : Children) (state : PropsState) :=
    hu.bind (hu.finishProps state) fun props => hu.finishElement ctx span tag items props
  have hsort (tag : ResolvedTag) (items : Children) :=
    hu.bind (Attr.steps_compileAll hu ctx tag attrs attrs (.new ctx.options)) (hfinish tag items)
  have hfill (tag : ResolvedTag) :=
    hu.bind (Child.steps_compileAll hu ctx children) (hsort tag)
  rw [Jsx.compile] at h
  obtain ⟨tag, _, _, htag, h, he⟩ :=
    h.exists_comments_of_bind (hu.resolveTag ctx opening.name) hfill
  obtain ⟨items', _, _, hitems, h, he'⟩ :=
    h.exists_comments_of_bind (Child.steps_compileAll hu ctx children) (hsort tag)
  obtain ⟨state, _, _, hstate, h, he''⟩ := h.exists_comments_of_bind
    (Attr.steps_compileAll hu ctx tag attrs attrs _) (hfinish tag items')
  obtain ⟨props, _, _, hprops, h, he'''⟩ := h.exists_comments_of_bind (hu.finishProps state)
    fun props => hu.finishElement ctx span tag items' props
  obtain ⟨log, hlog, hown⟩ := h.exists_annotated_finishElement ha
  refine ⟨log, hlog, ?_⟩
  rw [he, he', he'', he''', hown, htag.comments_of_keeps (silentSteps_keepsComments.resolveTag _ _),
    hitems.comments_unique hchildren, hattrs _ _ _ _ _ hstate,
    hprops.comments_of_keeps (keepsComments_finishProps state)]
  abel

/-- The comments of a fragment are those of its children and those that annotate its call. -/
theorem Jsx.exists_annotated_fragment (ha : ctx.annotate = true) {opening closing : Span}
    {children : List Child}
    (h : Gives ctx ((Jsx.fragment span opening closing children).compile ctx) call e)
    {items : Children} {below : Effect}
    (hchildren : Gives ctx (Child.compileAll ctx children) items below) :
    ∃ log : List Comment, call.Annotated span log ∧ e.comments = ↑log + below.comments := by
  have hu := steps_uniform ctx
  rw [Jsx.compile] at h
  obtain ⟨items', e₁, _, hitems, h, he⟩ := h.exists_comments_of_bind
    (Child.steps_compileAll hu ctx children) fun items => hu.finishFragment ctx span items
  obtain ⟨log, hlog, hown⟩ := h.exists_annotated_finishFragment ha
  refine ⟨log, hlog, ?_⟩
  rw [he, hown, hitems.comments_unique hchildren, add_comm]

/-- The comments of an attribute are those of its value. -/
theorem Attr.comments_named {name : AttrName} {value : AttrValue} {compiled : Option Node}
    {below : Effect} (hvalue : Gives ctx (value.compile ctx) compiled below) (tag : ResolvedTag)
    (all : List Attr) (state : PropsState) {after : PropsState}
    (h : Gives ctx ((Attr.named span name value).compile ctx tag all state) after e) :
    e.comments = below.comments := by
  have hu := steps_uniform ctx
  rw [Attr.compile] at h
  obtain ⟨compiled', e₁, e₂, hfirst, hsecond, he⟩ := h.exists_comments_of_bind
    (AttrValue.steps_compile hu ctx value) fun _ => hu.applyAttr _ _ _ _ _ _ _ _
  rw [he, hfirst.comments_unique hvalue,
    hsecond.comments_of_keeps (silentSteps_keepsComments.applyAttr _ _ _ _ _ _ _ _), add_zero]

end JsxVNode
