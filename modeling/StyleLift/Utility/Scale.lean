import StyleLift.Text.LetterCase
import StyleLift.Text.Blank
import StyleLift.Text.Quoted

/-! # Scales

A scale maps keys to the tokens that utility classes are named by. Keys keep the order in which
they were first entered, and the last token entered for a key counts.
-/
namespace StyleLift

structure Scale (κ : Type) where
  name : Text
  entries : List (κ × Text)

namespace Scale

variable {κ : Type} [DecidableEq κ]

def enter (key : κ) (token : Text) : List (κ × Text) → List (κ × Text)
  | [] => [(key, token)]
  | (k, t) :: rest => if k = key then (k, token) :: rest else (k, t) :: enter key token rest

def ofList (name : Text) (entries : List (κ × Text)) : Scale κ :=
  ⟨name, entries.foldl (fun found (key, token) => enter key token found) []⟩

def lookup? (s : Scale κ) (key : κ) : Option Text := s.entries.lookup key

def contains (s : Scale κ) (key : κ) : Bool := (s.lookup? key).isSome

omit [DecidableEq κ] in
def keys (s : Scale κ) : List κ := s.entries.map (·.1)

omit [DecidableEq κ] in
def describe (s : Scale κ) : Text :=
  Text.ofString "ScaleTable(" ++ s.name.quoted ++ Text.ofString ", " ++
    Text.ofNat s.entries.length ++ Text.ofString " entries)"

end Scale

/-- Lengths in pixels by the steps of the spacing scale. -/
def spacingScale : Scale Int := .ofList "spacing" [
  (0, "0"), (1, "px"), (4, "1"), (8, "2"), (12, "3"), (16, "4"), (20, "5"), (24, "6"), (32, "8"),
  (40, "10"), (48, "12"), (64, "16"), (80, "20"), (96, "24"), (128, "32"), (160, "40"),
  (192, "48"), (224, "56"), (256, "64")]

/-- Font sizes in pixels. -/
def typeScale : Scale Int := .ofList "type-scale" [
  (12, "xs"), (14, "sm"), (16, "base"), (18, "lg"), (20, "xl"), (24, "2xl"), (30, "3xl"),
  (36, "4xl"), (48, "5xl"), (60, "6xl"), (72, "7xl"), (96, "8xl"), (128, "9xl")]

/-- Colors by their lowercase literals. -/
def colorScale : Scale Text := .ofList "color" [
  ("black", "black"), ("white", "white"), ("#000", "black"), ("#fff", "white"),
  ("#ffffff", "white"), ("#000000", "black")]

def fontWeightScale : Scale Text := .ofList "font-weight" [
  ("normal", "font-normal"), ("bold", "font-bold"), ("100", "font-thin"),
  ("200", "font-extralight"), ("300", "font-light"), ("400", "font-normal"),
  ("500", "font-medium"), ("600", "font-semibold"), ("700", "font-bold"),
  ("800", "font-extrabold"), ("900", "font-black")]

def displayScale : Scale Text := .ofList "display" [
  ("block", "block"), ("inline", "inline"), ("inline-block", "inline-block"), ("flex", "flex"),
  ("inline-flex", "inline-flex"), ("grid", "grid"), ("none", "hidden")]

/-- A keyword as scales know it: trimmed, in lowercase. -/
def keyword (value : Text) : Text := value.trim.lower

def color? (literal stem : Text) : Option Text :=
  (colorScale.lookup? (keyword literal)).map fun token => stem ++ [.char '-'] ++ token

def fontWeight? (value : Text) : Option Text := fontWeightScale.lookup? (keyword value)

def display? (value : Text) : Option Text := displayScale.lookup? (keyword value)

end StyleLift
