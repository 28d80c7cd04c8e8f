import ColliderML.Command.Basic
import ColliderML.Representation.Histogram

/-!
Commands that fill histograms: one per event from rows of positions (and
weights) on bin edges, or one from a single event's positions on axes given by
bin counts and ranges. Arrays are lists of numbers with nothing for a missing
value; arrays of the wrong shape are refused.
-/

namespace ColliderML

namespace Command

open Request

def entryOf : Datum → Option Float
  | .none => some (0.0 / 0.0)
  | d => d.float?

def flatOf (name : String) (d : Datum) : Outcome (List Float) :=
  match d with
  | .list items =>
    match items.mapM entryOf with
    | some xs => .ok xs
    | none => .error (.badRequest (name ++ " must be a list of numbers"))
  | _ => .error (.badRequest (name ++ " must be a list of numbers"))

def rowsOf (name : String) (d : Datum) : Outcome (List (List Float)) :=
  let refused : Outcome (List (List Float)) := .error (.badRequest (name ++ " must be rectangular"))
  match d with
  | .list rows =>
    match rows.mapM (fun r => match r with
      | .list items => items.mapM entryOf
      | _ => none) with
    | some xs =>
      match xs with
      | [] => .ok []
      | r :: rest => if rest.all (·.length == r.length) then .ok xs else refused
    | none => refused
  | _ => refused

def shapeOf (rows : List (List Float)) : List Nat :=
  match rows with
  | [] => [0]
  | r :: _ => [rows.length, r.length]

def edgesOf (name : String) (d : Datum) : Outcome BinAxis :=
  let refused : Outcome BinAxis := .error (.badRequest (name ++ " must be a non-empty list"))
  match d with
  | .list items =>
    match items.mapM entryOf with
    | some xs =>
      match BinAxis.ofEdges xs with
      | some a => .ok a
      | none => refused
    | none => refused
  | _ => refused

def fillHistograms (req : Datum) : Outcome Datum := do
  let widthsD ← need req "widths"
  let heightsD ← need req "heights"
  let wBinsD ← need req "w_bins"
  let hBinsD ← need req "h_bins"
  let widths ← rowsOf "widths" widthsD
  let heights ← rowsOf "heights" heightsD
  if shapeOf widths != shapeOf heights then
    .error (.badRequest "widths and heights must have the same shape")
  let weights ← match req.field? "weights" with
    | none | some .none => pure none
    | some d => do
      let ws ← rowsOf "weights" d
      if shapeOf ws != shapeOf widths then
        .error (.badRequest "weights must have the same shape as widths")
      pure (some ws)
  let xa ← edgesOf "w_bins" wBinsD
  let ya ← edgesOf "h_bins" hBinsD
  let events := (List.range widths.length).map (fun i =>
    Histogram.points (widths.getD i []) (heights.getD i []) (weights.map (·.getD i [])))
  let hists ← events.mapM (Histogram.fill xa ya)
  pure (.list (hists.map (fun h => .list (h.map (fun row => .list (row.map .float))))))

def pairOf {α : Type} (read : Datum → Option α) (message : String) (d : Datum) : Outcome (α × α) :=
  match d with
  | .list [a, b] =>
    match read a, read b with
    | some x, some y => .ok (x, y)
    | _, _ => .error (.badRequest message)
  | _ => .error (.badRequest message)

def countOf : Datum → Option Nat
  | .int i => if i ≥ 0 then some i.toNat else none
  | _ => none

def fillHistogram (req : Datum) : Outcome Datum := do
  let x ← flatOf "x" (← need req "x")
  let y ← flatOf "y" (← need req "y")
  let (nx, ny) ← pairOf countOf "bins must be two non-negative integers" (← need req "bins")
  let (xlo, xhi) ← pairOf Datum.float? "xrange must be two numbers" (← need req "xrange")
  let (ylo, yhi) ← pairOf Datum.float? "yrange must be two numbers" (← need req "yrange")
  if x.length != y.length then .error (.badRequest "x and y must have the same length")
  let weights ← match req.field? "weights" with
    | none | some .none => pure none
    | some d => do
      let ws ← flatOf "weights" d
      if ws.length != x.length then .error (.badRequest "weights must have the same length as x")
      pure (some ws)
  let h ← Histogram.fill ⟨xlo, xhi, nx⟩ ⟨ylo, yhi, ny⟩ (Histogram.points x y weights)
  pure (.list (h.map (fun row => .list (row.map .float))))

end Command

end ColliderML
