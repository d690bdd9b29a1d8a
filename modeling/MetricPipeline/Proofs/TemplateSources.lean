import Mathlib.Data.List.Chain
import Mathlib.Data.List.Infix
import Mathlib.Data.List.TakeWhile
import MetricPipeline.Template

/-!
What the source of a template stands for.

Pieces that are written out and parsed come back as they were, whatever characters their names are
made of, and a parsed template gives the texts of its pieces in order. A source without references
stands for itself but for one thing: where braces with nothing between them follow a dollar sign, the
dollar sign stands for itself and the braces are lost.
-/

namespace MetricPipeline

/-- The text of a piece when nothing is asked of unknown variables: they are empty. -/
def Segment.textIn (bindings : Variables) : Segment → String
  | .literal text => text
  | .reference name => (bindings name).getD ""

/-- Whether a piece stands for itself. -/
def Segment.isLiteral : Segment → Bool
  | .literal _ => true
  | .reference _ => false

/-- The written form of a piece. -/
def Segment.written : Segment → String
  | .literal text => text
  | .reference name => "$\x7b" ++ name ++ "\x7d"

/-- A piece that its written form tells apart from what is around it: a literal has no dollar sign,
a name has no closing brace, and neither is empty. -/
def Segment.IsWritable : Segment → Prop
  | .literal text => text ≠ "" ∧ '$' ∉ text.toList
  | .reference name => name ≠ "" ∧ '\x7d' ∉ name.toList

instance : DecidablePred Segment.IsWritable
  | .literal _ | .reference _ => inferInstanceAs (Decidable (_ ∧ _))

namespace Template

/-! ## Rendering -/

/-- The texts of the pieces, one after another. -/
def textIn (template : Template) (bindings : Variables) : String :=
  String.join (template.segments.map (·.textIn bindings))

/-- The first variable of a template that is unknown. -/
def firstUnknown? (template : Template) (bindings : Variables) : Option String :=
  template.variableNames.find? (bindings · = none)

section Rendering

variable {bindings : Variables} {strict : Bool} {segment : Segment} {segments : List Segment}

theorem renderSegments_of_ok {text : String}
    (rendered : renderSegment bindings strict segment = .ok text) :
    renderSegments bindings strict (segment :: segments) =
      (renderSegments bindings strict segments).map (text ++ ·) := by
  rw [renderSegments, rendered]
  cases renderSegments bindings strict segments <;> rfl

theorem renderSegments_of_error {error : ResolveError}
    (failed : renderSegment bindings strict segment = .error error) :
    renderSegments bindings strict (segment :: segments) = .error error := by
  rw [renderSegments, failed]
  rfl

theorem textIn_cons (segment : Segment) (segments : List Segment) :
    textIn { segments := segment :: segments } bindings =
      segment.textIn bindings ++ textIn { segments } bindings := by
  rw [textIn, List.map_cons, String.join_cons, textIn]

theorem renderSegment_of_known (known : ∀ name, segment = .reference name → bindings name ≠ none) :
    renderSegment bindings strict segment = .ok (segment.textIn bindings) := by
  cases segment with
  | literal text => rfl
  | reference name =>
    obtain ⟨value, found⟩ := Option.ne_none_iff_exists'.mp (known name rfl)
    rw [renderSegment, Segment.textIn, found]
    rfl

theorem renderSegment_lenient (segment : Segment) :
    renderSegment bindings false segment = .ok (segment.textIn bindings) := by
  cases segment with
  | literal text => rfl
  | reference name =>
    rw [renderSegment, Segment.textIn]
    cases bindings name <;> rfl

end Rendering

/-- A template that is not strict gives its text. -/
theorem render_lenient (template : Template) (bindings : Variables) :
    template.render bindings false = .ok (template.textIn bindings) := by
  obtain ⟨segments⟩ := template
  show renderSegments bindings false segments = _
  induction segments with
  | nil => rfl
  | cons segment rest ih =>
    rw [renderSegments_of_ok (renderSegment_lenient segment), ih, textIn_cons]
    rfl

/-- A strict one gives it too, unless a variable is unknown: then it names the first such one. -/
theorem render_strict (template : Template) (bindings : Variables) :
    template.render bindings true =
      match template.firstUnknown? bindings with
      | some name => .error (.unknownVariable name)
      | none => .ok (template.textIn bindings) := by
  obtain ⟨segments⟩ := template
  show renderSegments bindings true segments = _
  induction segments with
  | nil => rfl
  | cons segment rest ih =>
    by_cases known : ∀ name, segment = .reference name → bindings name ≠ none
    · have same : firstUnknown? { segments := segment :: rest } bindings =
          firstUnknown? { segments := rest } bindings := by
        cases segment with
        | literal text => rfl
        | reference name => simp [firstUnknown?, variableNames, known name rfl]
      rw [renderSegments_of_ok (renderSegment_of_known known), ih, same, textIn_cons]
      cases firstUnknown? { segments := rest } bindings <;> rfl
    · simp only [not_forall, not_not] at known
      obtain ⟨name, rfl, unknown⟩ := known
      have first : firstUnknown? { segments := .reference name :: rest } bindings = some name := by
        simp [firstUnknown?, variableNames, unknown]
      have failed : renderSegment bindings true (.reference name) =
          .error (.unknownVariable name) := by
        rw [renderSegment, unknown]
        rfl
      rw [renderSegments_of_error failed, first]

/-! ## Reading -/

/-- A dollar sign in front of this text stands for itself. -/
def Lone (rest : List Char) : Prop := ∀ c, rest.head? = some c → c ≠ '\x7b' ∧ ¬ isNameChar c

/-- The ways in which a source can begin. -/
inductive Begins : List Char → Prop where
  /-- It is empty. -/
  | done : Begins []
  /-- With a character of a literal. -/
  | plain (c : Char) (rest : List Char) (other : c ≠ '$') : Begins (c :: rest)
  /-- With a dollar sign that stands for itself. -/
  | lone (rest : List Char) (follows : Lone rest) : Begins ('$' :: rest)
  /-- With a dollar sign and braces around nothing. -/
  | hollow (rest : List Char) : Begins ('$' :: '\x7b' :: '\x7d' :: rest)
  /-- With a reference without braces. -/
  | named (name rest : List Char) (nonempty : name ≠ []) (chars : ∀ c ∈ name, isNameChar c)
      (ends : ∀ c, rest.head? = some c → ¬ isNameChar c) : Begins ('$' :: (name ++ rest))
  /-- With a reference in braces. -/
  | braced (name rest : List Char) (nonempty : name ≠ []) (chars : '\x7d' ∉ name) :
      Begins ('$' :: '\x7b' :: (name ++ '\x7d' :: rest))
  /-- With a brace that is never closed. -/
  | unclosed (rest : List Char) (chars : '\x7d' ∉ rest) : Begins ('$' :: '\x7b' :: rest)

theorem begins_braced (rest : List Char) : Begins ('$' :: '\x7b' :: rest) := by
  by_cases closed : '\x7d' ∈ rest
  · obtain ⟨name, after, rfl, chars⟩ := List.eq_append_cons_of_mem closed
    cases name with
    | nil => exact .hollow after
    | cons c name => exact .braced (c :: name) after (List.cons_ne_nil c name) chars
  · exact .unclosed rest closed

/-- Every source begins in one of these ways. -/
theorem begins (chars : List Char) : Begins chars := by
  cases chars with
  | nil => exact .done
  | cons c rest =>
    by_cases dollar : c = '$'
    · subst dollar
      cases rest with
      | nil => exact .lone [] (fun c first => by cases first)
      | cons c rest =>
        by_cases brace : c = '\x7b'
        · subst brace
          exact begins_braced rest
        · by_cases name : isNameChar c
          · have cut := List.takeWhile_append_dropWhile (p := isNameChar) (l := c :: rest)
            rw [← cut]
            refine .named _ _ ?_ (fun c member => List.mem_takeWhile_imp member) ?_
            · rw [List.takeWhile_cons_of_pos name]
              exact List.cons_ne_nil _ _
            · intro other first
              have stops := List.head?_dropWhile_not isNameChar (c :: rest)
              rw [first] at stops
              simpa using stops
          · refine .lone _ fun other first => ?_
            obtain rfl := Option.some.inj first
            exact ⟨brace, name⟩
    · exact .plain c rest dollar

variable {text rest name : List Char}

theorem scan_plain {c : Char} (other : c ≠ '$') :
    scan (.literal text) (c :: rest) = scan (.literal (c :: text)) rest := if_neg other

theorem scan_lone (follows : Lone rest) :
    scan (.literal text) ('$' :: rest) = scan (.literal ('$' :: text)) rest := by
  cases rest with
  | nil => rfl
  | cons c rest =>
    obtain ⟨brace, name⟩ := follows c rfl
    exact (if_neg brace).trans (if_neg name)

theorem scan_hollow :
    scan (.literal text) ('$' :: '\x7b' :: '\x7d' :: rest) = scan (.literal ('$' :: text)) rest := by
  rfl

theorem scan_name {read : List Char} (chars : ∀ c ∈ name, isNameChar c)
    (ends : ∀ c, rest.head? = some c → ¬ isNameChar c) :
    scan (.name text read) (name ++ rest) =
      (scan (.literal []) rest).map (referenceSegments text (name.reverse ++ read) ++ ·) := by
  induction name generalizing read with
  | nil =>
    cases rest with
    | nil => exact congrArg some (List.append_nil _).symm
    | cons c rest =>
      refine (if_neg (ends c rfl)).trans ?_
      by_cases dollar : c = '$'
      · subst dollar
        rfl
      · rw [scan_plain dollar]
        exact if_neg dollar
  | cons c name ih =>
    obtain ⟨first, others⟩ := List.forall_mem_cons.mp chars
    refine (if_pos first).trans ?_
    rw [List.reverse_cons, List.append_assoc]
    exact ih others

theorem scan_named (nonempty : name ≠ []) (chars : ∀ c ∈ name, isNameChar c)
    (ends : ∀ c, rest.head? = some c → ¬ isNameChar c) :
    scan (.literal text) ('$' :: (name ++ rest)) =
      (scan (.literal []) rest).map (referenceSegments text name.reverse ++ ·) := by
  obtain ⟨c, name, rfl⟩ := List.exists_cons_of_ne_nil nonempty
  obtain ⟨first, others⟩ := List.forall_mem_cons.mp chars
  have brace : c ≠ '\x7b' := by
    rintro rfl
    exact absurd first (by decide)
  refine ((if_neg brace).trans (if_pos first)).trans ?_
  rw [List.reverse_cons]
  exact scan_name others ends

theorem scan_brace {read : List Char} (chars : '\x7d' ∉ name) (after : List Char) :
    scan (.braced text read) (name ++ after) = scan (.braced text (name.reverse ++ read)) after := by
  induction name generalizing read with
  | nil => rfl
  | cons c name ih =>
    rw [List.mem_cons, not_or] at chars
    refine (if_neg (Ne.symm chars.1)).trans ?_
    rw [List.reverse_cons, List.append_assoc]
    exact ih chars.2

theorem scan_braced (nonempty : name ≠ []) (chars : '\x7d' ∉ name) :
    scan (.literal text) ('$' :: '\x7b' :: (name ++ '\x7d' :: rest)) =
      (scan (.literal []) rest).map (referenceSegments text name.reverse ++ ·) := by
  refine (scan_brace chars ('\x7d' :: rest)).trans ?_
  rw [List.append_nil]
  exact if_neg fun none => nonempty (List.reverse_eq_nil_iff.mp none)

theorem scan_unclosed (chars : '\x7d' ∉ rest) :
    scan (.literal text) ('$' :: '\x7b' :: rest) = none := by
  have read : scan (.braced text []) (rest ++ []) = none := scan_brace chars []
  rwa [List.append_nil] at read

/-! ## Sources without references -/

/-- Every dollar sign of a text stands for itself: neither a name nor a brace follows it, or braces
around nothing do. -/
def IsVariableFree (chars : List Char) : Prop :=
  ∀ before after, chars = before ++ '$' :: after → Lone after ∨ ['\x7b', '\x7d'] <+: after

/-- A text without the braces that follow a dollar sign and have nothing between them. -/
def withoutHollowBraces : List Char → List Char
  | '$' :: '\x7b' :: '\x7d' :: rest => '$' :: withoutHollowBraces rest
  | c :: rest => c :: withoutHollowBraces rest
  | [] => []

theorem isVariableFree_nil : IsVariableFree [] := fun before after cut => by simp at cut

theorem isVariableFree_cons {c : Char} :
    IsVariableFree (c :: rest) ↔
      (c = '$' → Lone rest ∨ ['\x7b', '\x7d'] <+: rest) ∧ IsVariableFree rest := by
  constructor
  · intro free
    refine ⟨?_, fun before after cut => free (c :: before) after (by rw [cut, List.cons_append])⟩
    rintro rfl
    exact free [] rest rfl
  · rintro ⟨first, others⟩ before after cut
    cases before with
    | nil =>
      obtain ⟨rfl, rfl⟩ := List.cons.inj cut
      exact first rfl
    | cons d before =>
      obtain ⟨rfl, rfl⟩ := List.cons.inj cut
      exact others before after rfl

theorem isVariableFree_plain {c : Char} (other : c ≠ '$') :
    IsVariableFree (c :: rest) ↔ IsVariableFree rest := by
  rw [isVariableFree_cons, and_iff_right fun dollar => absurd dollar other]

theorem isVariableFree_lone (follows : Lone rest) :
    IsVariableFree ('$' :: rest) ↔ IsVariableFree rest := by
  rw [isVariableFree_cons, and_iff_right fun _ => .inl follows]

theorem isVariableFree_hollow :
    IsVariableFree ('$' :: '\x7b' :: '\x7d' :: rest) ↔ IsVariableFree rest := by
  rw [isVariableFree_cons, and_iff_right fun _ => .inr (List.prefix_append _ rest),
    isVariableFree_plain (by decide), isVariableFree_plain (by decide)]

theorem withoutHollowBraces_cons {c : Char} (other : ¬ ['$', '\x7b', '\x7d'] <+: c :: rest) :
    withoutHollowBraces (c :: rest) = c :: withoutHollowBraces rest := by
  rw [withoutHollowBraces]
  rintro after rfl rfl
  exact other (List.prefix_append _ after)

theorem withoutHollowBraces_plain {c : Char} (other : c ≠ '$') :
    withoutHollowBraces (c :: rest) = c :: withoutHollowBraces rest :=
  withoutHollowBraces_cons fun hollow => other (List.cons_prefix_cons.mp hollow).1.symm

theorem withoutHollowBraces_lone (follows : Lone rest) :
    withoutHollowBraces ('$' :: rest) = '$' :: withoutHollowBraces rest := by
  refine withoutHollowBraces_cons fun hollow => ?_
  obtain ⟨after, rfl⟩ := (List.cons_prefix_cons.mp hollow).2
  exact (follows _ rfl).1 rfl

/-- Either there are no such braces and nothing is lost, or there are and something is. -/
theorem withoutHollowBraces_cases (chars : List Char) :
    (withoutHollowBraces chars = chars ∧ ¬ ['$', '\x7b', '\x7d'] <:+: chars) ∨
      (withoutHollowBraces chars).length < chars.length ∧ ['$', '\x7b', '\x7d'] <:+: chars := by
  fun_induction withoutHollowBraces chars with
  | case1 rest ih =>
    refine .inr ⟨?_, (List.prefix_append _ rest).isInfix⟩
    rcases ih with ⟨same, -⟩ | ⟨shorter, -⟩
    · simp [same]
    · simp only [List.length_cons]
      omega
  | case2 c rest other ih =>
    have noPrefix : ¬ ['$', '\x7b', '\x7d'] <+: c :: rest := by
      rintro ⟨after, cut⟩
      obtain ⟨rfl, rfl⟩ := List.cons.inj cut
      exact other after rfl rfl
    rw [List.infix_cons_iff, or_iff_right noPrefix]
    exact ih.imp (And.imp_left (congrArg (c :: ·))) (And.imp_left Nat.succ_lt_succ)
  | case3 => exact .inl ⟨rfl, by simp⟩

theorem withoutHollowBraces_eq_iff (chars : List Char) :
    withoutHollowBraces chars = chars ↔ ¬ ['$', '\x7b', '\x7d'] <:+: chars := by
  rcases withoutHollowBraces_cases chars with ⟨same, absent⟩ | ⟨shorter, present⟩
  · exact iff_of_true same absent
  · exact iff_of_false (fun same => Nat.ne_of_lt shorter (congrArg _ same)) (not_not_intro present)

theorem not_isVariableFree_named (nonempty : name ≠ []) (chars : ∀ c ∈ name, isNameChar c) :
    ¬ IsVariableFree ('$' :: (name ++ rest)) := by
  obtain ⟨c, name, rfl⟩ := List.exists_cons_of_ne_nil nonempty
  have first := chars c List.mem_cons_self
  rw [isVariableFree_cons]
  rintro ⟨follows, -⟩
  rcases follows rfl with lone | hollow
  · exact (lone c rfl).2 first
  · obtain ⟨rfl, -⟩ := List.cons_prefix_cons.mp hollow
    exact absurd first (by decide)

/-- Braces with something between them make a reference, or a fault. -/
theorem not_isVariableFree_brace (open_ : ¬ ['\x7d'] <+: rest) :
    ¬ IsVariableFree ('$' :: '\x7b' :: rest) := by
  rw [isVariableFree_cons]
  rintro ⟨follows, -⟩
  rcases follows rfl with lone | hollow
  · exact (lone _ rfl).1 rfl
  · exact open_ (List.cons_prefix_cons.mp hollow).2

theorem variableNames_append (first second : List Segment) :
    variableNames { segments := first ++ second } =
      variableNames { segments := first } ++ variableNames { segments := second } :=
  List.filterMap_append

theorem variableNames_literalSegment (text : List Char) :
    variableNames { segments := literalSegment text } = [] := by
  unfold literalSegment
  split <;> rfl

theorem variableNames_referenceSegments (text name : List Char) (later : List Segment) :
    variableNames { segments := referenceSegments text name ++ later } =
      String.ofList name.reverse :: variableNames { segments := later } := by
  rw [variableNames_append, referenceSegments, variableNames_append, variableNames_literalSegment]
  rfl

/-- A source is read without references just when every dollar sign stands for itself, and then its
text is one literal. -/
theorem scan_variableFree (text chars : List Char) (segments : List Segment) :
    scan (.literal text) chars = some segments ∧ variableNames { segments } = [] ↔
      IsVariableFree chars ∧
        segments = literalSegment ((withoutHollowBraces chars).reverse ++ text) := by
  have refers (name : List Char) (later : Option (List Segment)) :
      ¬ (later.map (referenceSegments text name ++ ·) = some segments ∧
        variableNames { segments } = []) := by
    rintro ⟨read, none⟩
    obtain ⟨after, -, rfl⟩ := Option.map_eq_some_iff.mp read
    rw [variableNames_referenceSegments] at none
    cases none
  cases begins chars with
  | done =>
    show some (literalSegment text) = some segments ∧ _ ↔ _ ∧ segments = literalSegment text
    rw [and_iff_right isVariableFree_nil, Option.some.injEq]
    refine ⟨fun ⟨same, _⟩ => same.symm, fun same => ⟨same.symm, ?_⟩⟩
    rw [same]
    exact variableNames_literalSegment _
  | plain c rest other =>
    rw [scan_plain other, scan_variableFree (c :: text) rest, isVariableFree_plain other,
      withoutHollowBraces_plain other, List.reverse_cons, List.append_assoc]
    rfl
  | lone rest follows =>
    rw [scan_lone follows, scan_variableFree ('$' :: text) rest, isVariableFree_lone follows,
      withoutHollowBraces_lone follows, List.reverse_cons, List.append_assoc]
    rfl
  | hollow rest =>
    have kept : withoutHollowBraces ('$' :: '\x7b' :: '\x7d' :: rest) =
        '$' :: withoutHollowBraces rest := rfl
    rw [scan_hollow, scan_variableFree ('$' :: text) rest, isVariableFree_hollow, kept,
      List.reverse_cons, List.append_assoc]
    rfl
  | named name rest nonempty names ends =>
    rw [scan_named nonempty names ends]
    exact iff_of_false (refers _ _) fun free => not_isVariableFree_named nonempty names free.1
  | braced name rest nonempty names =>
    rw [scan_braced nonempty names]
    refine iff_of_false (refers _ _) fun free => not_isVariableFree_brace ?_ free.1
    obtain ⟨c, name, rfl⟩ := List.exists_cons_of_ne_nil nonempty
    intro closed
    exact names ((List.cons_prefix_cons.mp closed).1 ▸ List.mem_cons_self)
  | unclosed rest open_ =>
    rw [scan_unclosed open_]
    refine iff_of_false (fun read => by cases read.1) fun free => not_isVariableFree_brace ?_ free.1
    intro closed
    exact open_ (closed.mem List.mem_cons_self)
termination_by chars.length

theorem parse_eq_ok {source : String} {template : Template} :
    parse source = .ok template ↔ scan (.literal []) source.toList = some template.segments := by
  rw [parse]
  cases scan (.literal []) source.toList with
  | none => simp
  | some segments =>
    cases template
    simp

/-- The template of a text without references. -/
def ofText (text : List Char) : Template := { segments := literalSegment text.reverse }

theorem parse_variableFree (source : String) (template : Template) :
    parse source = .ok template ∧ template.variableNames = [] ↔
      IsVariableFree source.toList ∧ template = ofText (withoutHollowBraces source.toList) := by
  obtain ⟨segments⟩ := template
  rw [parse_eq_ok, scan_variableFree, List.append_nil, ofText, Template.mk.injEq]

theorem render_ofText (text : List Char) (bindings : Variables) (strict : Bool) :
    (ofText text).render bindings strict = .ok (String.ofList text) := by
  rw [render, ofText, literalSegment]
  split
  · rename_i empty
    rw [List.reverse_eq_nil_iff.mp empty]
    rfl
  · rw [renderSegments_of_ok rfl, List.reverse_reverse]
    simp [renderSegments, Except.map]

/-- **A source without references stands for itself but for hollow braces.** Whatever the variables
are, and whether or not the template is strict, what it gives is its source without the braces that
follow a dollar sign and have nothing between them. So it gives its source just when there are none. -/
theorem variableFree_loses_hollowBraces {source : String} {template : Template}
    (accepted : parse source = .ok template) (variableFree : template.variableNames = [])
    (bindings : Variables) (strict : Bool) :
    template.render bindings strict = .ok (String.ofList (withoutHollowBraces source.toList)) ∧
      (template.render bindings strict = .ok source ↔
        ¬ ['$', '\x7b', '\x7d'] <:+: source.toList) := by
  obtain ⟨-, rfl⟩ := (parse_variableFree source template).mp ⟨accepted, variableFree⟩
  have given := render_ofText (withoutHollowBraces source.toList) bindings strict
  refine ⟨given, ?_⟩
  rw [given, Except.ok.injEq, ← withoutHollowBraces_eq_iff, ← String.toList_inj,
    String.toList_ofList]

/-- Two dollar signs that stand for themselves, and one in front of braces. -/
def priceTag : String := "cost $\x7b\x7d, $ 5 $"

theorem priceTag_loses_hollowBraces :
    let template : Template := { segments := [.literal "cost $, $ 5 $"] }
    parse priceTag = .ok template ∧ template.variableNames = [] ∧
      ∀ bindings strict, template.render bindings strict = .ok "cost $, $ 5 $" ∧
        (template.render bindings strict = .ok priceTag ↔
          ¬ ['$', '\x7b', '\x7d'] <:+: priceTag.toList) := by
  intro template
  have accepted : parse priceTag = .ok template := by decide
  exact ⟨accepted, rfl, fun bindings strict =>
    variableFree_loses_hollowBraces accepted rfl bindings strict⟩

/-! ## Pieces that are written out -/

/-- The written form of pieces, one after another. -/
def written (segments : List Segment) : String := String.join (segments.map Segment.written)

theorem written_cons (segment : Segment) (segments : List Segment) :
    (written (segment :: segments)).toList = segment.written.toList ++ (written segments).toList := by
  rw [written, List.map_cons, String.join_cons, String.toList_append, written]

theorem scan_text {front : List Char} (plain : '$' ∉ front) :
    scan (.literal text) (front ++ rest) = scan (.literal (front.reverse ++ text)) rest := by
  induction front generalizing text with
  | nil => rfl
  | cons c front ih =>
    rw [List.mem_cons, not_or] at plain
    rw [List.cons_append, scan_plain (Ne.symm plain.1), ih plain.2, List.reverse_cons,
      List.append_assoc]
    rfl

theorem literalSegment_reverse {text : String} (nonempty : text ≠ "") :
    literalSegment text.toList.reverse = [.literal text] := by
  rw [literalSegment, if_neg (by simpa using nonempty), List.reverse_reverse, String.ofList_toList]

/-- Pieces are read back behind a literal that has already begun, unless they begin with another. -/
theorem scan_written {segments : List Segment}
    (writable : ∀ segment ∈ segments, segment.IsWritable)
    (apart : segments.IsChain fun first second => ¬ (first.isLiteral ∧ second.isLiteral))
    (fresh : text ≠ [] → ∀ first ∈ segments.head?, ¬ first.isLiteral) :
    scan (.literal text) (written segments).toList = some (literalSegment text ++ segments) := by
  induction segments generalizing text with
  | nil => exact congrArg some (List.append_nil _).symm
  | cons segment segments ih =>
    obtain ⟨here, others⟩ := List.forall_mem_cons.mp writable
    obtain ⟨next, chain⟩ := List.isChain_cons.mp apart
    rw [written_cons]
    cases segment with
    | literal literal =>
      obtain ⟨nonempty, plain⟩ := here
      obtain rfl : text = [] := by
        by_contra begun
        exact fresh begun _ rfl rfl
      rw [Segment.written, scan_text plain, List.append_nil,
        ih others chain fun _ first member => fun same => next first member ⟨rfl, same⟩,
        literalSegment_reverse nonempty]
      rfl
    | reference name =>
      obtain ⟨nonempty, closes⟩ := here
      have source : (Segment.reference name).written.toList ++ (written segments).toList =
          '$' :: '\x7b' :: (name.toList ++ '\x7d' :: (written segments).toList) := by
        simp [Segment.written]
      rw [source, scan_braced (by simpa using nonempty) closes,
        ih others chain fun begun => absurd rfl begun, Option.map_some, referenceSegments,
        List.reverse_reverse, String.ofList_toList, List.append_assoc]
      rfl

/-- **Pieces that are written out come back, and give their texts in order.** No two literals may
stand side by side; but for that the pieces may be any, and their names may have any characters but
the closing brace. Unknown variables are empty; a strict template fails just when there is one, and
names the first. -/
theorem written_round_trip {segments : List Segment}
    (writable : ∀ segment ∈ segments, segment.IsWritable)
    (apart : segments.IsChain fun first second => ¬ (first.isLiteral ∧ second.isLiteral)) :
    ∃ template, parse (written segments) = .ok template ∧ template.segments = segments ∧
      template.variableNames = (segments.filterMap fun
        | .reference name => some name
        | .literal _ => none) ∧
      ∀ bindings, template.render bindings false = .ok (template.textIn bindings) ∧
        template.render bindings true =
          match template.firstUnknown? bindings with
          | some name => .error (.unknownVariable name)
          | none => .ok (template.textIn bindings) := by
  have read : scan (.literal []) (written segments).toList = some (literalSegment [] ++ segments) :=
    scan_written writable apart fun begun => absurd rfl begun
  refine ⟨{ segments }, parse_eq_ok.mpr read, rfl, rfl, fun bindings => ⟨?_, ?_⟩⟩
  · exact render_lenient _ bindings
  · exact render_strict _ bindings

/-- Names with a dollar sign and an opening brace, and a literal with a closing one. -/
def nestedSigns : List Segment :=
  [.reference "a$\x7bb", .reference "é", .literal " \x7d ", .reference "c d"]

theorem nestedSigns_round_trip :
    (∀ segment ∈ nestedSigns, segment.IsWritable) ∧
      nestedSigns.IsChain (fun first second => ¬ (first.isLiteral ∧ second.isLiteral)) ∧
      written nestedSigns = "$\x7ba$\x7bb\x7d$\x7bé\x7d \x7d $\x7bc d\x7d" ∧
      ∃ template, parse (written nestedSigns) = .ok template ∧ template.segments = nestedSigns ∧
        template.variableNames = ["a$\x7bb", "é", "c d"] ∧
        ∀ bindings, template.render bindings false = .ok (template.textIn bindings) ∧
          template.render bindings true =
            match template.firstUnknown? bindings with
            | some name => .error (.unknownVariable name)
            | none => .ok (template.textIn bindings) := by
  have writable : ∀ segment ∈ nestedSigns, segment.IsWritable := by decide
  have apart : nestedSigns.IsChain fun first second => ¬ (first.isLiteral ∧ second.isLiteral) := by
    decide
  exact ⟨writable, apart, rfl, written_round_trip writable apart⟩

end Template

end MetricPipeline
