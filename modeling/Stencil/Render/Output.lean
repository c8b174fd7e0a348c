/-!
# Output

Where rendered text goes.  The text is either joined or kept as fragments, one for each write that
is not empty.  While a capture is open, text goes into the innermost capture instead.  When a render
is finished, captures that are still open are written out as if they had never been opened.
-/

namespace Stencil

/-- What has been written outside of captures. -/
inductive Sink where
  | joined (text : String)
  /-- The fragments, the last one first. -/
  | fragments (parts : List String)
  deriving DecidableEq

/-- The output of a render: the sink and the open captures, the innermost first. -/
structure Output where
  sink : Sink
  captures : List String
  deriving DecidableEq

/-- The output of a finished render. -/
inductive RenderOutput where
  | joined (text : String)
  | fragments (parts : List String)
  deriving DecidableEq

def Sink.write (s : Sink) (text : String) : Sink :=
  match s with
  | joined t => joined (t ++ text)
  | fragments parts => if text = "" then fragments parts else fragments (text :: parts)

def Sink.close : Sink → RenderOutput
  | joined t => .joined t
  | fragments parts => .fragments parts.reverse

namespace Output

/-- An output that joins what is written. -/
def joining : Output := ⟨.joined "", []⟩

def fragmenting : Output := ⟨.fragments [], []⟩

def write (o : Output) (text : String) : Output :=
  match o.captures with
  | [] => { o with sink := o.sink.write text }
  | c :: cs => { o with captures := (c ++ text) :: cs }

def beginCapture (o : Output) : Output := { o with captures := "" :: o.captures }

/-- Closes the innermost capture; without one there is no text. -/
def endCapture (o : Output) : String × Output :=
  match o.captures with
  | [] => ("", o)
  | c :: cs => (c, { o with captures := cs })

def isCapturing (o : Output) : Bool := !o.captures.isEmpty

/-- Writes a capture to the one below it, that one to the next, and the last one to the sink. -/
def pour (sink : Sink) (c : String) : List String → Sink
  | [] => sink.write c
  | d :: cs => pour sink (d ++ c) cs

/-- The sink after the open captures have been written out. -/
def flush (sink : Sink) : List String → Sink
  | [] => sink
  | c :: cs => pour sink c cs

def finish (o : Output) : RenderOutput := (flush o.sink o.captures).close

@[simp] theorem write_sink (s : Sink) (text : String) :
    (Output.mk s []).write text = ⟨s.write text, []⟩ := rfl

@[simp] theorem write_capture (s : Sink) (c : String) (cs : List String) (text : String) :
    (Output.mk s (c :: cs)).write text = ⟨s, (c ++ text) :: cs⟩ := rfl

@[simp] theorem endCapture_beginCapture (o : Output) : o.beginCapture.endCapture = ("", o) := rfl

end Output

namespace RenderOutput

def text : RenderOutput → String
  | joined t => t
  | fragments parts => String.join parts

/-- The fragments, if they were kept. -/
def fragments? : RenderOutput → Option (List String)
  | joined _ => none
  | fragments parts => some parts

end RenderOutput

end Stencil
