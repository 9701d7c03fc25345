import StyleLift.Component.Styled
import StyleLift.Extract.Extraction

/-! # Output formats

Styles as they are, behind a styled-components import, or as an extraction's bundle. Only the last
needs the document and a compiler.
-/
namespace StyleLift

inductive Format
  | css
  | tailwind
  | react
deriving DecidableEq

namespace Format

def name : Format → Text
  | .css => "css"
  | .tailwind => "tailwind"
  | .react => "react"

def all : List Format := [.css, .tailwind, .react]

def ofName? (name : Text) : Option Format := all.find? (·.name == name)

/-- Styles in a format that needs neither a document nor a compiler. -/
def direct? (styles : Text) : Format → Option Text
  | .css => some styles
  | .react => some (Component.styledSheet styles)
  | .tailwind => none

end Format

/-- Styles in a format: a string, or the object of a bundle. -/
def convert (html styles : Text) (compiler : Compiler) (f : Format) : Action Json :=
  match f.direct? styles with
  | some text => pure (.str text)
  | none => Bundle.toJson <$> extract html styles compiler

def unsupportedFormat (name : Text) : Fault :=
  .invalidArgument (Text.ofString "Unsupported format: " ++ name)

/-- Styles in a format given by name. -/
def convertTo (format html styles : Text) (compiler : Compiler) : Action Json :=
  match Format.ofName? format with
  | some f => convert html styles compiler f
  | none => throw (unsupportedFormat format)

end StyleLift
