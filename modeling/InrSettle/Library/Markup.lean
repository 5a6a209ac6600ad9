import InrSettle.Library.JsText

/-!
# Markup

The elements and the characters of a page of markup, as they are read unit by unit, and what a text
is read as that stands escaped in it.
-/

namespace Markup

open Js

/-! ### Nodes -/

/-- An element with its attributes and children, or one unit of a text. -/
inductive Node where
  | unit (u : CodeUnit)
  | element (name : Text) (attributes : List (Text × Text)) (children : List Node)

/-- A text as nodes. -/
def units (text : Text) : List Node := text.map .unit

theorem units_injective : Function.Injective units :=
  List.map_injective_iff.mpr fun _ _ same => Node.unit.inj same

/-- Only elements and attributes of these names stand in a node. -/
inductive Node.Within (names keys : List Text) : Node → Prop where
  | unit (u : CodeUnit) : Within names keys (.unit u)
  | element {name : Text} {attributes : List (Text × Text)} {children : List Node} :
    name ∈ names → (∀ member ∈ attributes, member.1 ∈ keys) →
      (∀ child ∈ children, Within names keys child) →
      Within names keys (.element name attributes children)

theorem within_units {names keys : List Text} (text : Text) :
    ∀ node ∈ units text, node.Within names keys := by
  intro node mem
  obtain ⟨u, -, rfl⟩ := List.mem_map.mp mem
  exact .unit u

/-! ### Reading -/

/-- An element that is open, with what has been read of it. -/
structure Frame where
  name : Text
  attributes : List (Text × Text)
  children : List Node

def Frame.add (frame : Frame) (nodes : List Node) : Frame :=
  { frame with children := frame.children ++ nodes }

/-- A start tag as far as it has been read. -/
structure Tag where
  name : Text
  attributes : List (Text × Text) := []

def Tag.with (tag : Tag) (name value : Text) : Tag :=
  { tag with attributes := tag.attributes ++ [(name, value)] }

/-- Where a reader is. In a text it knows whether it has just read a carriage return. -/
inductive Mode where
  | data (afterReturn : Bool)
  | reference (name : Text)
  | tagOpen
  | declaration
  | startName (name : Text)
  | stopName (name : Text)
  | inTag (tag : Tag)
  | attributeName (tag : Tag) (name : Text)
  | beforeValue (tag : Tag) (name : Text)
  | value (tag : Tag) (name value : Text) (afterReturn : Bool)
  | valueReference (tag : Tag) (name value reference : Text)
  | afterValue (tag : Tag)
  | raw (read : Text)

structure State where
  mode : Mode
  /-- The open elements, the innermost first, and the page last. -/
  stack : List Frame

/-- The character references that are known. -/
def references : List (Text × CodeUnit) :=
  [(ofString "amp", unit '&'), (ofString "lt", unit '<'), (ofString "gt", unit '>'),
    (ofString "quot", unit '"'), (ofString "#39", unit '\x27'), (ofString "mdash", unit '—')]

/-- The elements without an end tag. -/
def voids : List Text := [ofString "meta"]

/-- The elements whose text is read as it stands. -/
def rawNames : List Text := [ofString "style"]

/-- Nodes are added to the innermost open element. -/
def add (nodes : List Node) : List Frame → Option (List Frame)
  | [] => none
  | frame :: stack => some (frame.add nodes :: stack)

def openTag (tag : Tag) (stack : List Frame) : Option State :=
  if tag.name ∈ voids then
    (add [.element tag.name tag.attributes []] stack).map (⟨.data false, ·⟩)
  else
    some ⟨if tag.name ∈ rawNames then .raw [] else .data false,
      ⟨tag.name, tag.attributes, []⟩ :: stack⟩

/-- An end tag closes the innermost element, which has its name. -/
def closeTag (name : Text) : List Frame → Option State
  | frame :: outer :: stack =>
    if frame.name = name then
      some ⟨.data false, outer.add [.element frame.name frame.attributes frame.children] :: stack⟩
    else none
  | _ => none

/-- One unit of a text: line ends become line feeds, and a NUL is what `nul` says. -/
def shownUnit (nul : Text) (afterReturn : Bool) (u : CodeUnit) : Text :=
  if u = unit '\n' then if afterReturn then [] else [u]
  else if u = unit '\r' then [unit '\n']
  else if u = 0 then nul
  else [u]

/-- A text as it is read. -/
def shownFrom (nul : Text) : Bool → Text → Text
  | _, [] => []
  | afterReturn, u :: rest =>
    shownUnit nul afterReturn u ++ shownFrom nul (decide (u = unit '\r')) rest

/-- A text between tags: a NUL in it is dropped. -/
def shown (text : Text) : Text := shownFrom [] false text

/-- A text in an attribute: a NUL in it is U+FFFD. -/
def shownValue (text : Text) : Text := shownFrom [unit '\uFFFD'] false text

/-- The text of an element that is read as it stands ends before its end tag. -/
def endsRaw (name read : Text) : Option Text :=
  let ending := (ofString "</" ++ name).reverse
  if ending <+: read then some (read.drop ending.length).reverse else none

def feedData (afterReturn : Bool) (u : CodeUnit) (stack : List Frame) : Option State :=
  if u = unit '<' then some ⟨.tagOpen, stack⟩
  else if u = unit '&' then some ⟨.reference [], stack⟩
  else (add (units (shownUnit [] afterReturn u)) stack).map (⟨.data (decide (u = unit '\r')), ·⟩)

def feedValue (tag : Tag) (name value : Text) (afterReturn : Bool) (u : CodeUnit)
    (stack : List Frame) : State :=
  if u = unit '"' then ⟨.afterValue (tag.with name value), stack⟩
  else if u = unit '&' then ⟨.valueReference tag name value [], stack⟩
  else ⟨.value tag name (value ++ shownUnit [unit '\uFFFD'] afterReturn u)
    (decide (u = unit '\r')), stack⟩

/-- The next unit is read; nothing where the page is not well formed. -/
def feed (state : State) (u : CodeUnit) : Option State :=
  let stack := state.stack
  match state.mode with
  | .data afterReturn => feedData afterReturn u stack
  | .reference name =>
    if u = unit ';' then
      (references.lookup name).bind fun c => (add [.unit c] stack).map (⟨.data false, ·⟩)
    else some ⟨.reference (name ++ [u]), stack⟩
  | .tagOpen =>
    if u = unit '/' then some ⟨.stopName [], stack⟩
    else if u = unit '!' then some ⟨.declaration, stack⟩
    else some ⟨.startName [u], stack⟩
  | .declaration => some ⟨if u = unit '>' then .data false else .declaration, stack⟩
  | .startName name =>
    if u = unit '>' then openTag ⟨name, []⟩ stack
    else if u = unit ' ' then some ⟨.inTag ⟨name, []⟩, stack⟩
    else some ⟨.startName (name ++ [u]), stack⟩
  | .stopName name =>
    if u = unit '>' then closeTag name stack else some ⟨.stopName (name ++ [u]), stack⟩
  | .inTag tag => some ⟨.attributeName tag [u], stack⟩
  | .attributeName tag name =>
    some ⟨if u = unit '=' then .beforeValue tag name else .attributeName tag (name ++ [u]), stack⟩
  | .beforeValue tag name => if u = unit '"' then some ⟨.value tag name [] false, stack⟩ else none
  | .value tag name value afterReturn => some (feedValue tag name value afterReturn u stack)
  | .valueReference tag name value reference =>
    if u = unit ';' then
      (references.lookup reference).map fun c => ⟨.value tag name (value ++ [c]) false, stack⟩
    else some ⟨.valueReference tag name value (reference ++ [u]), stack⟩
  | .afterValue tag =>
    if u = unit '>' then openTag tag stack
    else if u = unit ' ' then some ⟨.inTag tag, stack⟩
    else none
  | .raw read =>
    match stack with
    | frame :: _ =>
      match if u = unit '>' then endsRaw frame.name read else none with
      | some text => (add (units text) stack).bind (closeTag frame.name)
      | none => some ⟨.raw (u :: read), stack⟩
    | [] => none

def readUnits : State → Text → Option State
  | state, [] => some state
  | state, u :: rest => (feed state u).bind (readUnits · rest)

/-- The nodes of a page; nothing where an element is left open. -/
def readPage (page : Text) : Option (List Node) :=
  (readUnits ⟨.data false, [⟨[], [], []⟩]⟩ page).bind fun state =>
    match state.mode, state.stack with
    | .data _, [frame] => some frame.children
    | _, _ => none

@[simp] theorem readUnits_nil (state : State) : readUnits state [] = some state := rfl

@[simp] theorem readUnits_cons (state : State) (u : CodeUnit) (rest : Text) :
    readUnits state (u :: rest) = (feed state u).bind (readUnits · rest) := rfl

theorem readUnits_append (state : State) (first rest : Text) :
    readUnits state (first ++ rest) = (readUnits state first).bind (readUnits · rest) := by
  induction first generalizing state with
  | nil => rfl
  | cons u first ih =>
    rw [List.cons_append, readUnits_cons, readUnits_cons, Option.bind_assoc]
    exact Option.bind_congr fun next _ => ih next

/-! ### What is read of what was written -/

/-- The page goes on from one state to another. -/
def Leads (state : State) (source : Text) (next : State) : Prop :=
  readUnits state source = some next

theorem Leads.append {state next last : State} {source more : Text}
    (first : Leads state source next) (second : Leads next more last) :
    Leads state (source ++ more) last := by
  rw [Leads, readUnits_append, first]
  exact second

/-- The source is read as the nodes, wherever it stands. -/
def ReadAs (source : Text) (nodes : List Node) : Prop :=
  ∀ afterReturn frame stack, Leads ⟨.data afterReturn, frame :: stack⟩ source
    ⟨.data false, frame.add nodes :: stack⟩

theorem Frame.add_add (frame : Frame) (nodes more : List Node) :
    (frame.add nodes).add more = frame.add (nodes ++ more) := by
  simp [Frame.add]

theorem Frame.add_nil (frame : Frame) : frame.add [] = frame := by
  simp [Frame.add]

theorem ReadAs.append {source more : Text} {nodes others : List Node} (first : ReadAs source nodes)
    (second : ReadAs more others) : ReadAs (source ++ more) (nodes ++ others) := by
  intro afterReturn frame stack
  rw [← Frame.add_add]
  exact (first afterReturn frame stack).append (second false (frame.add nodes) stack)

/-! ### Escaped texts -/

/-- A unit stands for itself, or a reference for it. -/
inductive Stands : CodeUnit → Text → Prop where
  | itself {u : CodeUnit} : u ≠ unit '<' → u ≠ unit '&' → u ≠ unit '"' → Stands u [u]
  | reference {u : CodeUnit} (name : Text) : unit ';' ∉ name → references.lookup name = some u →
    Stands u (unit '&' :: (name ++ [unit ';']))

/-- What is written for each unit is read as the unit. -/
def Escapes (escape : CodeUnit → Text) : Prop := ∀ u, Stands u (escape u)

theorem leads_reference {name : Text} (plain : unit ';' ∉ name) (read : Text) (stack : List Frame) :
    Leads ⟨.reference read, stack⟩ name ⟨.reference (read ++ name), stack⟩ := by
  induction name generalizing read with
  | nil =>
    rw [List.append_nil]
    rfl
  | cons u name ih =>
    have other : u ≠ unit ';' := fun is => plain (is ▸ List.mem_cons_self)
    have rest := ih (fun mem => plain (List.mem_cons_of_mem u mem)) (read ++ [u])
    rw [List.append_assoc, List.singleton_append] at rest
    rw [Leads, readUnits_cons, feed]
    dsimp only
    rw [if_neg other]
    exact rest

theorem leads_valueReference {name : Text} (plain : unit ';' ∉ name) (tag : Tag)
    (key value read : Text) (stack : List Frame) :
    Leads ⟨.valueReference tag key value read, stack⟩ name
      ⟨.valueReference tag key value (read ++ name), stack⟩ := by
  induction name generalizing read with
  | nil =>
    rw [List.append_nil]
    rfl
  | cons u name ih =>
    have other : u ≠ unit ';' := fun is => plain (is ▸ List.mem_cons_self)
    have rest := ih (fun mem => plain (List.mem_cons_of_mem u mem)) (read ++ [u])
    rw [List.append_assoc, List.singleton_append] at rest
    rw [Leads, readUnits_cons, feed]
    dsimp only
    rw [if_neg other]
    exact rest

/-- No reference stands for a line end or a NUL. -/
theorem shownUnit_reference {name : Text} {u : CodeUnit} (found : references.lookup name = some u)
    (nul : Text) (afterReturn : Bool) :
    shownUnit nul afterReturn u = [u] ∧ u ≠ unit '\r' := by
  have known : ∀ reference ∈ references, reference.2 ≠ unit '\n' ∧ reference.2 ≠ unit '\r' ∧
      reference.2 ≠ 0 := by decide
  obtain ⟨front, back, is, -⟩ := List.lookup_eq_some_iff.mp found
  obtain ⟨notLine, notReturn, notNul⟩ :=
    known (name, u) (is ▸ List.mem_append_right _ List.mem_cons_self)
  rw [shownUnit, if_neg notLine, if_neg notReturn, if_neg notNul]
  exact ⟨rfl, notReturn⟩

theorem Stands.leads {u : CodeUnit} {source : Text} (stands : Stands u source) (afterReturn : Bool)
    (frame : Frame) (stack : List Frame) :
    Leads ⟨.data afterReturn, frame :: stack⟩ source
      ⟨.data (decide (u = unit '\r')),
        frame.add (units (shownUnit [] afterReturn u)) :: stack⟩ := by
  cases stands with
  | itself notOpen notReference notQuote =>
    rw [Leads, readUnits_cons, feed]
    dsimp only
    rw [feedData, if_neg notOpen, if_neg notReference]
    rfl
  | reference name plain found =>
    obtain ⟨itself, notReturn⟩ := shownUnit_reference found [] afterReturn
    rw [itself, decide_eq_false notReturn]
    have opened : Leads ⟨.data afterReturn, frame :: stack⟩ [unit '&']
      ⟨.reference [], frame :: stack⟩ := rfl
    have closed : Leads ⟨.reference name, frame :: stack⟩ [unit ';']
        ⟨.data false, frame.add (units [u]) :: stack⟩ := by
      rw [Leads, readUnits_cons, feed]
      simp only [if_true, found, Option.bind_some]
      rfl
    exact opened.append ((leads_reference plain [] (frame :: stack)).append closed)

theorem Stands.leads_value {u : CodeUnit} {source : Text} (stands : Stands u source) (tag : Tag)
    (name value : Text) (afterReturn : Bool) (stack : List Frame) :
    Leads ⟨.value tag name value afterReturn, stack⟩ source
      ⟨.value tag name (value ++ shownUnit [unit '\uFFFD'] afterReturn u)
        (decide (u = unit '\r')), stack⟩ := by
  cases stands with
  | itself notOpen notReference notQuote =>
    rw [Leads, readUnits_cons, feed]
    simp only [feedValue, if_neg notQuote, if_neg notReference, Option.bind_some, readUnits_nil]
  | reference reference plain found =>
    obtain ⟨itself, notReturn⟩ := shownUnit_reference found [unit '\uFFFD'] afterReturn
    rw [itself, decide_eq_false notReturn]
    have opened : Leads ⟨.value tag name value afterReturn, stack⟩ [unit '&']
      ⟨.valueReference tag name value [], stack⟩ := rfl
    have closed : Leads ⟨.valueReference tag name value reference, stack⟩ [unit ';']
        ⟨.value tag name (value ++ [u]) false, stack⟩ := by
      rw [Leads, readUnits_cons, feed]
      simp only [if_true, found, Option.map_some, Option.bind_some, readUnits_nil]
    exact opened.append ((leads_valueReference plain tag name value [] stack).append closed)

/-- An escaped text is read as the text. -/
theorem leads_text {escape : CodeUnit → Text} (escapes : Escapes escape) (text : Text)
    (afterReturn : Bool) (frame : Frame) (stack : List Frame) :
    ∃ last, Leads ⟨.data afterReturn, frame :: stack⟩ (text.flatMap escape)
      ⟨.data last, frame.add (units (shownFrom [] afterReturn text)) :: stack⟩ := by
  induction text generalizing afterReturn frame with
  | nil =>
    refine ⟨afterReturn, ?_⟩
    rw [shownFrom, units, List.map_nil, Frame.add_nil]
    rfl
  | cons u text ih =>
    obtain ⟨last, rest⟩ := ih (decide (u = unit '\r'))
      (frame.add (units (shownUnit [] afterReturn u)))
    rw [Frame.add_add, units, units, ← List.map_append] at rest
    exact ⟨last, ((escapes u).leads afterReturn frame stack).append rest⟩

theorem leads_value {escape : CodeUnit → Text} (escapes : Escapes escape) (text : Text) (tag : Tag)
    (name value : Text) (afterReturn : Bool) (stack : List Frame) :
    ∃ last, Leads ⟨.value tag name value afterReturn, stack⟩ (text.flatMap escape)
      ⟨.value tag name (value ++ shownFrom [unit '\uFFFD'] afterReturn text) last, stack⟩ := by
  induction text generalizing afterReturn value with
  | nil =>
    refine ⟨afterReturn, ?_⟩
    rw [shownFrom, List.append_nil]
    rfl
  | cons u text ih =>
    obtain ⟨last, rest⟩ := ih (value ++ shownUnit [unit '\uFFFD'] afterReturn u)
      (decide (u = unit '\r'))
    rw [List.append_assoc] at rest
    exact ⟨last, ((escapes u).leads_value tag name value afterReturn stack).append rest⟩

/-! ### Elements -/

/-- A start tag opens an element. -/
def StartsTag (source name : Text) (attributes : List (Text × Text)) : Prop :=
  ∀ afterReturn stack, Leads ⟨.data afterReturn, stack⟩ source
    ⟨.data false, ⟨name, attributes, []⟩ :: stack⟩

/-- What stands in an element is read as the nodes. -/
def Fills (source : Text) (nodes : List Node) : Prop :=
  ∀ frame stack, ∃ last, Leads ⟨.data false, frame :: stack⟩ source
    ⟨.data last, frame.add nodes :: stack⟩

/-- An end tag closes an element. -/
def EndsTag (source name : Text) : Prop :=
  ∀ afterReturn attributes children outer stack,
    Leads ⟨.data afterReturn, ⟨name, attributes, children⟩ :: outer :: stack⟩ source
      ⟨.data false, outer.add [.element name attributes children] :: stack⟩

theorem ReadAs.fills {source : Text} {nodes : List Node} (reads : ReadAs source nodes) :
    Fills source nodes :=
  fun frame stack => ⟨false, reads false frame stack⟩

theorem fills_text {escape : CodeUnit → Text} (escapes : Escapes escape) (text : Text) :
    Fills (text.flatMap escape) (units (shown text)) :=
  fun frame stack => leads_text escapes text false frame stack

theorem ReadAs.fills_append {source more : Text} {nodes others : List Node}
    (reads : ReadAs source nodes) (fills : Fills more others) :
    Fills (source ++ more) (nodes ++ others) := by
  intro frame stack
  obtain ⟨last, rest⟩ := fills (frame.add nodes) stack
  rw [Frame.add_add] at rest
  exact ⟨last, (reads false frame stack).append rest⟩

theorem fills_flatten {sources : List Text} {nodes : List (List Node)}
    (each : List.Forall₂ ReadAs sources nodes) : Fills sources.flatten nodes.flatten := by
  induction each with
  | nil =>
    intro frame stack
    refine ⟨false, ?_⟩
    rw [List.flatten_nil, List.flatten_nil, Frame.add_nil]
    rfl
  | cons reads _ ih =>
    rw [List.flatten_cons, List.flatten_cons]
    exact reads.fills_append ih

theorem Fills.append {source more : Text} {nodes others : List Node} (fills : Fills source nodes)
    (reads : ReadAs more others) : Fills (source ++ more) (nodes ++ others) := by
  intro frame stack
  obtain ⟨last, first⟩ := fills frame stack
  refine ⟨false, first.append ?_⟩
  rw [← Frame.add_add]
  exact reads last (frame.add nodes) stack

/-- An element is read as it was written. -/
theorem StartsTag.reads {start name content stop : Text} {attributes : List (Text × Text)}
    {nodes : List Node} (opens : StartsTag start name attributes) (fills : Fills content nodes)
    (closes : EndsTag stop name) :
    ReadAs (start ++ (content ++ stop)) [.element name attributes nodes] := by
  intro afterReturn frame stack
  obtain ⟨last, inside⟩ := fills ⟨name, attributes, []⟩ (frame :: stack)
  exact (opens afterReturn (frame :: stack)).append
    (inside.append (closes last attributes nodes frame stack))

/-! ### Texts that are read as they stand -/

theorem feed_raw {read : Text} {u : CodeUnit} (goesOn : u ≠ unit '>' ∨ unit '<' ∉ read)
    (frame : Frame) (stack : List Frame) :
    feed ⟨.raw read, frame :: stack⟩ u = some ⟨.raw (u :: read), frame :: stack⟩ := by
  have unended : (if u = unit '>' then endsRaw frame.name read else none) = none := by
    split
    · rename_i is
      have clean := goesOn.resolve_left (not_not.mpr is)
      rw [endsRaw, if_neg]
      intro isPrefix
      refine clean (isPrefix.subset (List.mem_reverse.mpr ?_))
      exact List.mem_append_left _ (by decide)
    · rfl
  rw [feed]
  dsimp only
  rw [unended]

theorem leads_raw {source read : Text}
    (goesOn : unit '>' ∉ source ∨ unit '<' ∉ source ∧ unit '<' ∉ read) (frame : Frame)
    (stack : List Frame) : Leads ⟨.raw read, frame :: stack⟩ source
      ⟨.raw (source.reverse ++ read), frame :: stack⟩ := by
  induction source generalizing read with
  | nil => rfl
  | cons u source ih =>
    rw [Leads, readUnits_cons, feed_raw, Option.bind_some, List.reverse_cons, List.append_assoc]
    · refine ih (goesOn.imp (fun plain mem => plain (List.mem_cons_of_mem u mem)) ?_)
      rintro ⟨plain, clean⟩
      refine ⟨fun mem => plain (List.mem_cons_of_mem u mem), ?_⟩
      exact List.not_mem_cons_of_ne_of_not_mem (fun is => plain (is ▸ List.mem_cons_self)) clean
    · exact goesOn.imp (fun plain is => plain (is ▸ List.mem_cons_self)) (·.2)

/-- A text without a tag is read as it stands. -/
theorem reads_raw {start name source : Text} {attributes : List (Text × Text)}
    (opens : ∀ afterReturn stack, Leads ⟨.data afterReturn, stack⟩ start
      ⟨.raw [], ⟨name, attributes, []⟩ :: stack⟩) (plain : unit '<' ∉ source)
    (plainName : unit '>' ∉ name) :
    ReadAs (start ++ (source ++ (ofString "</" ++ name ++ ofString ">")))
      [.element name attributes (units source)] := by
  intro afterReturn frame stack
  have inside := leads_raw (.inr ⟨plain, List.not_mem_nil⟩) ⟨name, attributes, []⟩ (frame :: stack)
  have noEnd : unit '>' ∉ ofString "</" ++ name := by
    rw [List.mem_append, not_or]
    exact ⟨by decide, plainName⟩
  have ending : Leads ⟨.raw (source.reverse ++ []), ⟨name, attributes, []⟩ :: frame :: stack⟩
    (ofString "</" ++ name) _ := leads_raw (.inl noEnd) ⟨name, attributes, []⟩ (frame :: stack)
  refine (opens afterReturn (frame :: stack)).append (inside.append (ending.append ?_))
  have ends : endsRaw name ((ofString "</" ++ name).reverse ++ (source.reverse ++ [])) =
      some source := by
    rw [endsRaw, if_pos (List.prefix_append _ _), List.drop_left, List.append_nil,
      List.reverse_reverse]
  have last : ofString ">" = [unit '>'] := rfl
  rw [Leads, last, readUnits_cons, feed]
  dsimp only
  rw [if_pos rfl, ends]
  simp [add, closeTag, Frame.add]

end Markup
