import ReplSend.Locate.Cell
import ReplSend.Locate.Definition
import ReplSend.Locate.Group
import ReplSend.Request

/-!
# Sending units

A unit is located in its buffer, made into a fragment that can stand alone, and sent to the session
of the buffer. Statements and definitions are moved to the left margin; cells, regions and whole
buffers carry an encoding cookie; a file is loaded by the interpreter itself.
-/

namespace ReplSend

/-- What is to be sent of a buffer. -/
inductive Selection where
  | statement
  | topStatement
  | defun
  | defclass
  | group
  | cell
  | region (start stop : Int)
  | buffer (keepMain : Bool)
  deriving DecidableEq, Repr

/-- A region, if one is selected, or else the whole buffer. -/
def Selection.regionOrBuffer (region : Option (Int × Int)) (keepMain : Bool) : Selection :=
  match region with
  | some (a, b) => if a = b then .buffer keepMain else .region a b
  | none => .buffer keepMain

/-- The selection that a kind of unit stands for, when a place in a file is all that is known. -/
def Selection.ofKind? (kind : BlockKind) (keepMain : Bool) : Option Selection :=
  match kind with
  | .statement => some .statement
  | .topStatement => some .topStatement
  | .defun => some .defun
  | .defclass => some .defclass
  | .group => some .group
  | .cell => some .cell
  | .buffer => some (.buffer keepMain)
  | .region => none

/-- Main guards are dropped from whole buffers only, unless they are to be kept. -/
def Selection.keepsMain : Selection → Bool
  | buffer keepMain => keepMain
  | _ => true

/-- What one send did. -/
structure Outcome where
  target : Text
  block : Block
  text : Text
  /-- The cursor afterwards. -/
  point : Int
  capture : Option Nat
  deriving DecidableEq, Repr

/-- A definition has to be found. -/
def required (kind : BlockKind) : Except LocateFault (Option Block) → Except Failure Block
  | .ok (some b) => .ok b
  | .ok none => .error (.locate (.noDefinition kind))
  | .error f => .error (.locate f)

def located (r : Except LocateFault Block) : Except Failure Block := r.mapError .locate

/-- The fragment at the left margin. -/
def dedented (t : Text) : Except Failure Text := (Fragment.dedent t).mapError .shallow

namespace World

variable {τ : Type}

/-- The block of a selection and the text that is sent for it. -/
def fragment (w : World τ) (b : Buffer) : Selection → Except Failure (Block × Text)
  | .statement => do
    let block ← located (b.outline.statement (b.outline.lineAt b.point))
    return (block, ← dedented (block.textIn b.text))
  | .topStatement => do
    let block ← located (b.outline.topStatement (b.outline.lineAt b.point))
    return (block, block.textIn b.text)
  | .defun => do
    let block ← required .defun (b.outline.definition (b.outline.lineAt b.point) .defHeader)
    return (block, ← dedented (block.textIn b.text))
  | .defclass => do
    let block ← required .defclass (b.outline.definition (b.outline.lineAt b.point) .classHeader)
    return (block, ← dedented (block.textIn b.text))
  | .group => do
    let block ← located (b.outline.group (b.outline.lineAt b.point))
    return (block, block.textIn b.text)
  | .cell => do
    let block ← located (b.outline.cell w.cellBoundary.matchesStart w.cellBeginning.matchesStart
      (b.outline.lineAt b.point))
    if block.isEmpty || Text.allBlank (block.textIn b.text) then throw (.locate .emptyCell)
    return (block, Fragment.withCookie (block.textIn b.text) b.encoding)
  | .region start stop =>
    let block := b.outline.region start stop
    .ok (block, Fragment.withCookie (Fragment.guarded (block.textIn b.text)) b.encoding)
  | .buffer _ => .ok (b.outline.whole, Fragment.withCookie b.text b.encoding)

/-- Remembers the lines last sent to a session. -/
def markSent (w : World τ) (n : Nat) (b : Buffer) (block : Block) : World τ :=
  let name := w.nameOf n
  { w with sent := w.sent.put name ⟨name, b.name, block.firstLine, block.lastLine⟩ }

end World

/-- The buffer of a file, with the cursor on a line. -/
def Buffer.ofFile (host : Host) (path : Text) (line : Int) (encoding : Text) :
    Except Failure Buffer :=
  match host.read path with
  | .error f => .error (.file f)
  | .ok bytes =>
    match host.codecs.find? encoding with
    | none => .error .unknownEncoding
    | some c =>
      match c.decode? bytes with
      | none => .error .undecodable
      | some t =>
        let b : Buffer := ⟨Encoding.newlines t, 0, Path.name path, some path, encoding⟩
        .ok (b.atLine line)

namespace Act

variable {τ : Type} [Clock τ]

/-- Sends the text for a block to the session of its buffer. -/
def sendBlock (b : Buffer) (block : Block) (t : Text) (step keepMain : Bool) : Act τ Outcome := do
  let n ← ensureRunning none (some b)
  let capture ← request n ⟨t, true, false, keepMain⟩
  update (·.markSent n b block)
  let w ← get
  update (·.log .info ("send." ++ block.kind.name ++ " target=" ++ w.nameOf n ++ " lines=" ++
    Text.ofNat block.firstLine ++ '-' :: Text.ofNat block.lastLine))
  let point := if step then (b.outline.nextStatementStart block : Int) else b.point
  return ⟨w.nameOf n, block, t, point, capture⟩

/-- Sends a selection of a buffer; with `step` the cursor goes on to the next statement. -/
def send (b : Buffer) (selection : Selection) (step : Bool) : Act τ Outcome := do
  let w ← get
  let (block, t) ← ofExcept (w.fragment b selection)
  let step := match selection with
    | .buffer _ => false
    | _ => step
  sendBlock b block t step selection.keepsMain

/-- Has the interpreter load a file, for the session of a buffer or of the file itself. -/
def sendFile (path : Text) (source : Option Buffer) (encoding : Option Text) (keepMain : Bool) :
    Act τ Outcome := do
  let w ← get
  let given := encoding.filter (!·.isEmpty)
  let b ← match source with
    | some b => pure b
    | none => ofExcept (Buffer.ofFile w.host path 1 (given.getD w.settings.encoding))
  let command := Loader.command (w.host.resolve path) (given.getD b.encoding) keepMain false
  sendBlock b b.outline.whole command false keepMain

end Act

end ReplSend
