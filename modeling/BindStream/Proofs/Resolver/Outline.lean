import BindStream.Proofs.Token.Depth
import BindStream.Resolver

namespace BindStream

/-! Where a token lies among the groups of its statement, and the column that a scan back from
there comes upon. The members of a group are listed nearest first. -/

inductive Member
  /-- A token, and whether the token after it opens a group. -/
  | token (token : Token) (opens : Bool)
  /-- A group that has closed. -/
  | group (opening : Token) (members : List Member) (closing : Token)

mutual

/-- The columns that a member names, in the order of the text. The name of a function is none. -/
def Member.columns : Member → List String
  | .token token opens => if opens then [] else token.columnName.toList
  | .group _ members _ => columnsAmong members

def columnsAmong : List Member → List String
  | [] => []
  | member :: before => columnsAmong before ++ member.columns

end

mutual

def Member.tokens : Member → List Token
  | .token token _ => [token]
  | .group opening members closing => opening :: (tokensAmong members ++ [closing])

def tokensAmong : List Member → List Token
  | [] => []
  | member :: before => tokensAmong before ++ member.tokens

end

/-- What a member stands for as a candidate: itself, or the first column in it. -/
def Member.column? (member : Member) : Option String := member.columns.head?

/-- The separators of a group's conditions and items, but for `AND`. -/
def Token.separates (token : Token) : Bool :=
  match token.kind with
  | .comma => true
  | .semicolon => true
  | .keyword keyword => keyword == .OR || keyword.opensClause
  | _ => false

/-- Whether a `BETWEEN` stands behind the last `AND` and the last separator. -/
def pendingBetween : List Member → Bool
  | [] => false
  | .group _ _ _ :: before => pendingBetween before
  | .token token _ :: before =>
    token.kind == .keyword .BETWEEN ||
      (token.kind != .keyword .AND && !token.separates && pendingBetween before)

/-- An `AND` that ends no `BETWEEN` separates like any other. -/
def isSeparator (token : Token) (before : List Member) : Bool :=
  token.separates || (token.kind == .keyword .AND && !pendingBetween before)

/-- The members back to the last separator, and back to the last group that has closed. -/
def window : List Member → List Member
  | [] => []
  | .group opening members closing :: _ => [.group opening members closing]
  | .token token opens :: before =>
    if isSeparator token before then [] else .token token opens :: window before

def nearestColumn (members : List Member) : Option String :=
  (window members).findSome? Member.column?

/-- Whether a separator other than a comma is among the members. -/
def boundedBy : List Member → Bool
  | [] => false
  | .group _ _ _ :: before => boundedBy before
  | .token token _ :: before =>
    (token.kind != .comma && isSeparator token before) || boundedBy before

/-- A group that is open, as its members up to the opening of another one in it. -/
structure Enclosing where
  before : List Member
  opening : Token

/-- The members of the innermost open group, and the groups around it, innermost first. -/
structure Outline where
  members : List Member
  enclosing : List Enclosing

/-- The nearest column of a group, or else, unless it is the outermost or bounded, of the group
around it as that stood when this one opened. -/
def columnBehind (members : List Member) : List Enclosing → Option String
  | [] => nearestColumn members
  | around :: enclosing =>
    (nearestColumn members).or
      (if boundedBy members then none else columnBehind around.before enclosing)

/-- Whether a group that opens behind these members holds the arguments of a function. -/
def endsInCallee : List Member → Bool
  | .token token true :: _ => token.columnName.isSome
  | _ => false

/-- A token that has no part in how a group's conditions and items are separated. -/
def Token.Quiet (token : Token) : Prop :=
  token.separates = false ∧ token.kind ≠ .keyword .AND ∧ token.kind ≠ .keyword .BETWEEN

section

variable {token : Token} {opens : Bool} {before : List Member}

theorem Token.Quiet.not_separator (quiet : token.Quiet) : isSeparator token before = false := by
  rw [isSeparator, quiet.1, beq_false_of_ne quiet.2.1]
  rfl

theorem Token.Quiet.pendingBetween (quiet : token.Quiet) :
    BindStream.pendingBetween (.token token opens :: before) =
      BindStream.pendingBetween before := by
  rw [BindStream.pendingBetween, quiet.1, beq_false_of_ne quiet.2.2, bne, beq_false_of_ne quiet.2.1]
  rfl

theorem Token.Quiet.boundedBy (quiet : token.Quiet) :
    BindStream.boundedBy (.token token opens :: before) = BindStream.boundedBy before := by
  rw [BindStream.boundedBy, quiet.not_separator, Bool.and_false]
  rfl

theorem head?_columnsAmong (member : Member) :
    (columnsAmong (member :: before)).head? =
      (columnsAmong before).head?.or member.column? := by
  rw [columnsAmong, List.head?_append]
  rfl

theorem column?_token (unnamed : token.columnName = none) :
    (Member.token token opens).column? = none := by
  rw [Member.column?, Member.columns, unnamed]
  cases opens <;> rfl

theorem endsInCallee_of_unnamed (unnamed : token.columnName = none) :
    endsInCallee (.token token opens :: before) = false := by
  cases opens with
  | false => rfl
  | true =>
      rw [endsInCallee, unnamed]
      rfl

theorem nearestColumn_of_separator (separator : isSeparator token before = true) :
    nearestColumn (.token token opens :: before) = none := by
  rw [nearestColumn, window, if_pos separator]
  rfl

theorem nearestColumn_of_not_separator (free : isSeparator token before = false) :
    nearestColumn (.token token opens :: before) =
      (Member.token token opens).column?.or (nearestColumn before) := by
  rw [nearestColumn, window, if_neg (Bool.eq_false_iff.mp free), List.findSome?_cons]
  cases (Member.token token opens).column? <;> rfl

theorem nearestColumn_group (opening closing : Token) (inner : List Member) :
    nearestColumn (.group opening inner closing :: before) = (columnsAmong inner).head? := by
  rw [nearestColumn, window, List.findSome?_cons, Member.column?, Member.columns]
  cases (columnsAmong inner).head? <;> rfl

theorem pendingBetween_of_separator (separator : isSeparator token before = true) :
    pendingBetween (.token token opens :: before) = false := by
  rw [isSeparator, Bool.or_eq_true, Bool.and_eq_true] at separator
  rcases separator with separates | ⟨conjunct, -⟩
  · have other : token.kind ≠ .keyword .BETWEEN := by
      intro between
      rw [Token.separates, between] at separates
      cases separates
    rw [pendingBetween, beq_false_of_ne other, separates, Bool.not_true, Bool.and_false]
    rfl
  · rw [pendingBetween, eq_of_beq conjunct]
    rfl

end

namespace Outline

def top : Outline := ⟨[], []⟩

def column? (outline : Outline) : Option String :=
  columnBehind outline.members outline.enclosing

theorem column?_top (members : List Member) :
    column? ⟨members, []⟩ = nearestColumn members := rfl

theorem column?_inner (members : List Member) (around : Enclosing) (enclosing : List Enclosing) :
    column? ⟨members, around :: enclosing⟩ =
      (nearestColumn members).or
        (if boundedBy members then none else column? ⟨around.before, enclosing⟩) := rfl

/-- Whether a place is among the arguments of a function, or outside all parentheses. -/
def inArguments (outline : Outline) : Bool :=
  match outline.enclosing with
  | [] => true
  | around :: _ => endsInCallee around.before

def add (outline : Outline) (member : Member) : Outline :=
  { outline with members := member :: outline.members }

/-- The outline behind a token; `opens` says that the next one opens a group. -/
def step (outline : Outline) (token : Token) (opens : Bool) : Outline :=
  match token.kind, outline.enclosing with
  | .leftParen, enclosing => ⟨[], ⟨outline.members, token⟩ :: enclosing⟩
  | .rightParen, around :: enclosing =>
    ⟨.group around.opening outline.members token :: around.before, enclosing⟩
  | _, _ => outline.add (.token token opens)

theorem length_enclosing_step {outline : Outline} {token : Token} {depth : Nat} (opens : Bool)
    (inside : token.depthFrom outline.enclosing.length = some depth) :
    (outline.step token opens).enclosing.length = depth := by
  obtain ⟨members, enclosing⟩ := outline
  obtain ⟨kind, text, span⟩ := token
  cases kind with
  | rightParen =>
      cases enclosing with
      | nil => cases inside
      | cons around enclosing =>
          cases inside
          rfl
  | _ =>
      cases inside
      rfl

/-- The tokens that an outline has read, in the order of the text. -/
def tokens (outline : Outline) : List Token :=
  outline.enclosing.reverse.flatMap (fun around => tokensAmong around.before ++ [around.opening]) ++
    tokensAmong outline.members

theorem tokens_add (outline : Outline) (member : Member) :
    (outline.add member).tokens = outline.tokens ++ member.tokens := by
  rw [tokens, tokens, List.append_assoc]
  rfl

theorem tokens_step (outline : Outline) (token : Token) (opens : Bool) :
    (outline.step token opens).tokens = outline.tokens ++ [token] := by
  obtain ⟨members, enclosing⟩ := outline
  unfold step
  split
  · simp [tokens, tokensAmong]
  · next around enclosing _ same =>
      cases same
      simp [tokens, tokensAmong, Member.tokens]
  · exact tokens_add _ _

end Outline

/-- A token and where it lies. -/
structure Site where
  outline : Outline
  token : Token

namespace Site

/-- The parameter of a marker, from the number of markers before it. -/
def parameter (site : Site) (ordinal : Nat) : Except ResolveError Parameter :=
  match site.outline.column? with
  | some column => .ok ⟨ordinal, column, site.token.span⟩
  | none => .error (.unresolvedMarker ordinal site.token.span)

/-- The parameters of some markers in a row, which the first one without a column prevents. -/
def bindAll (ordinal : Nat) (markers : List Site) : Except ResolveError (List Parameter) :=
  (markers.zipIdx ordinal).mapM fun (site, ordinal) => site.parameter ordinal

variable {site : Site} {markers : List Site} {ordinal : Nat}

theorem bindAll_cons_of_some {column : String} (found : site.outline.column? = some column) :
    bindAll ordinal (site :: markers) =
      (⟨ordinal, column, site.token.span⟩ :: ·) <$> bindAll (ordinal + 1) markers := by
  have here : site.parameter ordinal = .ok ⟨ordinal, column, site.token.span⟩ := by
    rw [parameter, found]
  rw [bindAll, List.zipIdx_cons, List.mapM_cons]
  dsimp only
  rw [here]
  rfl

theorem bindAll_cons_of_none (missing : site.outline.column? = none) :
    bindAll ordinal (site :: markers) =
      .error (.unresolvedMarker ordinal site.token.span) := by
  have here : site.parameter ordinal = .error (.unresolvedMarker ordinal site.token.span) := by
    rw [parameter, missing]
  rw [bindAll, List.zipIdx_cons, List.mapM_cons]
  dsimp only
  rw [here]
  rfl

end Site

/-- The places of some tokens that come behind an outline. -/
def sites (outline : Outline) : List Token → List Site
  | [] => []
  | token :: tokens =>
    ⟨outline, token⟩ :: sites (outline.step token (Resolver.opensGroup tokens)) tokens

def markerSites (outline : Outline) (tokens : List Token) : List Site :=
  (sites outline tokens).filter fun site => site.token.isMarker

theorem markerSites_cons_of_isMarker {outline : Outline} {token : Token} {tokens : List Token}
    (marked : token.isMarker = true) :
    markerSites outline (token :: tokens) =
      ⟨outline, token⟩ :: markerSites (outline.step token (Resolver.opensGroup tokens)) tokens :=
  List.filter_cons_of_pos marked

theorem markerSites_cons_of_not_isMarker {outline : Outline} {token : Token}
    {tokens : List Token} (unmarked : token.isMarker = false) :
    markerSites outline (token :: tokens) =
      markerSites (outline.step token (Resolver.opensGroup tokens)) tokens :=
  List.filter_cons_of_neg (Bool.eq_false_iff.mp unmarked)

theorem map_token_sites (outline : Outline) (tokens : List Token) :
    (sites outline tokens).map Site.token = tokens := by
  induction tokens generalizing outline with
  | nil => rfl
  | cons token tokens ih => rw [sites, List.map_cons, ih]

/-- The outline of a place has read the tokens before it. -/
theorem tokens_of_mem_sites {outline : Outline} {tokens : List Token} {site : Site}
    (member : site ∈ sites outline tokens) :
    site.outline.tokens ++ [site.token] <+: outline.tokens ++ tokens := by
  induction tokens generalizing outline with
  | nil => cases member
  | cons token tokens ih =>
      rw [sites] at member
      rcases List.mem_cons.mp member with rfl | later
      · exact ⟨tokens, List.append_assoc _ _ _⟩
      · have read := ih later
        rw [Outline.tokens_step, List.append_assoc] at read
        exact read

end BindStream
