import ColliderML.Command.Observables
import ColliderML.Representation.Set
import ColliderML.Representation.Image.Read

/-!
Commands on representations: sets of observables, and images whose operations
are registered step by step. A text among the observables is read as an
observable name when the representation is made.
-/

namespace ColliderML

namespace Command

open Request

/-- A value in observable form as a representation keeps it: a text is read as
an observable name, the name "None" giving nothing. -/
def memberOf (table : AliasTable) (a : ObservableArg) : Outcome ObservableArg :=
  match a with
  | .value (.str s) => do
    match (← Observable.parse table s []) with
    | some o => pure (.observable o)
    | none => pure (.value .none)
  | a => .ok a

/-- set: makes a set of observables and reports it with its configuration and
the configuration of the set rebuilt from it. -/
def readSet (table : AliasTable) (req : Datum) : Reply :=
  let made : Outcome (ObservableSet × List String × List Datum) := do
    let items ← needList req "observables"
    let args ← items.mapM (observableArg table)
    let members ← args.mapM (memberOf table)
    let s : ObservableSet := ⟨members⟩
    let names ← s.names
    let described ← s.members.mapM ObservableArg.describe
    pure (s, names, described)
  match made with
  | .error e => .failure e
  | .ok (s, names, described) =>
    .record [("names", .data (Datum.ofStrings names)), ("observables", .data (.list described)),
      ("values", .data .none), ("config", Reply.ofOutcome s.config),
      ("from_config", Reply.ofOutcome (do let r ← s.rebuild table; r.config))]

/-- The state of an image as a reply, with its values once read, and the
step's result when it has one. -/
def imageState (img : Image) (result : Option Datum := none) : Reply :=
  let values := if img.beenRead then
      [("height_value", .data (Image.valueOf img.heightValue).toDatum),
       ("width_value", .data (Image.valueOf img.widthValue).toDatum)] ++
      (if img.hasChannel then [("channel_value", .data (Image.valueOf img.channelValue).toDatum)]
       else [])
    else []
  .record ([("config", Reply.ofOutcome img.config), ("been_read", .data (.bool img.beenRead)),
    ("been_pixelated", .data (match img.beenPixelated with
      | some b => .bool b
      | none => .none)),
    ("status", .data img.status),
    ("registered_methods", .data (.list (img.registered.map ImageStep.toDatum)))] ++ values ++
    (match result with
      | some r => [("result", .data r)]
      | none => []))

def imageReport (r : Image × Option Error) (result : Option Datum := none) : Image × Reply :=
  match r.2 with
  | some e => (r.1, Reply.failureWith e [("state", imageState r.1)])
  | none => (r.1, imageState r.1 result)

def imageStepOf (method : String) (args : List (String × Datum)) : Outcome (Option ImageStep) := do
  let arg := fun (get : String → Option Datum) (k : String) (default : Datum) => (get k).getD default
  match method with
  | "with_subjets" =>
    let ps := ["constituents", "algorithm", "r", "min_pt"]
    let get ← bindArguments "Image.with_subjets" ps ps args
    pure (some (.withSubjets (arg get "constituents" .none) (arg get "algorithm" .none)
      (arg get "r" .none) (arg get "min_pt" .none)))
  | "translate" =>
    let get ← bindArguments "Image.translate" ["origin"] [] args
    pure (some (.translate (arg get "origin" (.str "SubJet0"))))
  | "rotate" =>
    let get ← bindArguments "Image.rotate" ["axis", "orientation"] [] args
    pure (some (.rotate (arg get "axis" (.str "SubJet1")) (arg get "orientation" (.int (-90)))))
  | "pixelate" =>
    let get ← bindArguments "Image.pixelate" ["size", "range"] ["size", "range"] args
    pure (some (.pixelate (arg get "size" .none) (arg get "range" .none)))
  | _ => pure none

def isImageMethod (method : String) : Bool :=
  ["with_subjets", "translate", "rotate", "pixelate"].contains method

/-- One step of an image request: the image after it and the step's reply; an
unknown method refuses the whole request. -/
def imageStep (table : AliasTable) (img : Image) (step : Datum) : Outcome (Image × Reply) :=
  match step.field? "method" with
  | some (.str "from_config") =>
    match img.rebuild with
    | .ok i => .ok (imageReport (i, none))
    | .error e => .ok (imageReport (img, some e))
  | some (.str m) =>
    if isImageMethod m then
      match imageStepOf m (opt step "args" (.dict [])).fields with
      | .ok (some s) => .ok (imageReport (img.apply table s))
      | .ok none => .error (.badRequest "unknown method")
      | .error e => .ok (imageReport (img, some e))
    else .error (.badRequest ("unknown method " ++ m))
  | _ => .error (.badRequest "step without a method")

def imageResult (img : Image) (r : Outcome Datum) : Image × Reply :=
  match r with
  | .ok v => imageReport (img, none) (some v)
  | .error e => imageReport (img, some e)

def injected (img : Image) (step : Datum) : Outcome Image := do
  let height ← Tensor.ofDatum .float64 (opt step "height" .none)
  let width ← Tensor.ofDatum .float64 (opt step "width" .none)
  let channel ← match step.field? "channel" with
    | some .none | none => pure none
    | some d => do pure (some (← Tensor.ofDatum .float64 d))
  let subjets ← match step.field? "subjets" with
    | some (.dict fs) => do
      pure (some ⟨← fs.mapM (fun kv => do pure (kv.1, ← Tensor.ofDatum .float32 kv.2))⟩)
    | _ => pure none
  img.inject height width channel subjets

/-- One step of an image request on events: reading, giving values, marking,
asking for values or centres, drawing, or any step of an image request. -/
def imageEventStep (table : AliasTable) (img : Image) (step : Datum) : Outcome (Image × Reply) :=
  match step.field? "method" with
  | some (.str "read") => do
    let ev ← Events.decode (← need step "events")
    pure (imageReport (img.read table ev))
  | some (.str "inject") =>
    match injected img step with
    | .ok i => .ok (imageReport (i, none))
    | .error e => .ok (imageReport (img, some e))
  | some (.str "set_status") => .ok (imageReport ({ img with status := opt step "status" .none }, none))
  | some (.str "values") => .ok (imageResult img img.values)
  | some (.str "continuous_to_center") =>
    .ok (imageResult img (do
      let values ← Tensor.ofDatum .float64 (opt step "values" (.list []))
      let edges ← Tensor.ofDatum .float64 (opt step "bins" (.list []))
      pure (← values.toCenters (edges.toList.map Scalar.toFloat)).toDatum))
  | some (.str "show") =>
    match img.draw (opt step "args" (.dict [])).fields with
    | .ok () => .ok (imageReport (img, none))
    | .error e => .ok (imageReport (img, some e))
  | _ => imageStep table img step

def imageOf (table : AliasTable) (req : Datum) : Outcome Image := do
  let h ← observableArg table (← need req "height")
  let w ← observableArg table (← need req "width")
  let c ← observableArg table (opt req "channel" .none)
  let height ← memberOf table h
  let width ← memberOf table w
  let channel ← match c with
    | .value .none => pure (.value .none)
    | c => memberOf table c
  pure { height, width, channel }

def imageStates (img : Image) (steps : List Datum)
    (run : Image → Datum → Outcome (Image × Reply)) : Outcome Reply := do
  let (_, states) ← steps.foldlM (fun (acc : Image × List Reply) step => do
    let (img, r) ← run acc.1 step
    pure (img, acc.2 ++ [r])) (img, [imageState img])
  pure (.record [("states", .list states)])

def runImage (table : AliasTable) (req : Datum) : Outcome Reply := do
  imageStates (← imageOf table req) (← needList req "steps") (imageStep table)

def runImageEvents (table : AliasTable) (req : Datum) : Outcome Reply := do
  imageStates (← imageOf table req) (← needList req "steps") (imageEventStep table)

end Command

end ColliderML
