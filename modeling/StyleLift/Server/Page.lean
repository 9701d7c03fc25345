import StyleLift.Http.Message
import StyleLift.Text.CodePoint

/-! # Pages

The short documents for people that stand for an answer where there is nothing else to answer.
-/
namespace StyleLift.Server

/-- Text as a document shows it. -/
def escapeMarkup (s : Text) : Text :=
  s.flatMap fun c =>
    if c = .char '&' then "&amp;"
    else if c = .char '<' then "&lt;"
    else if c = .char '>' then "&gt;"
    else if c = .char '\'' then "&#39;"
    else if c = .char '"' then "&#34;"
    else [c]

/-- A page with a title in its head, a heading, and a paragraph of markup. -/
def page (title heading paragraph : Text) : Text :=
  Text.ofString "<!doctype html>\n<html lang=en>\n<title>" ++ title ++
    Text.ofString "</title>\n<h1>" ++ heading ++ Text.ofString "</h1>\n<p>" ++ paragraph ++
    [.char '\n']

def pageResponse (status : Nat) (headers : List (Text × Text)) (content : Text) : Http.Response :=
  ⟨status, (Http.contentTypeHeader, Http.htmlType) :: headers, Text.utf8 content⟩

/-- Why there is no answer. -/
inductive Refusal
  | notFound
  | methodNotAllowed
  | failed
deriving DecidableEq

namespace Refusal

def status : Refusal → Nat
  | .notFound => 404
  | .methodNotAllowed => 405
  | .failed => 500

def heading : Refusal → Text
  | .notFound => "Not Found"
  | .methodNotAllowed => "Method Not Allowed"
  | .failed => "Internal Server Error"

def explanation : Refusal → Text
  | .notFound =>
    Text.ofString "The requested URL was not found on the server. If you entered the URL " ++
      Text.ofString "manually please check your spelling and try again."
  | .methodNotAllowed => "The method is not allowed for the requested URL."
  | .failed =>
    Text.ofString "The server encountered an internal error and was unable to complete your " ++
      Text.ofString "request. Either the server is overloaded or there is an error in the " ++
      Text.ofString "application."

def response (r : Refusal) (headers : List (Text × Text)) : Http.Response :=
  pageResponse r.status headers
    (page (Text.ofNat r.status ++ Text.ofString " " ++ r.heading) r.heading
      (r.explanation ++ Text.ofString "</p>"))

end Refusal

/-- The answer that sends a request, with its method and body, to another place. -/
def redirectTo (location : Text) : Http.Response :=
  let shown := escapeMarkup location
  let title : Text := "Redirecting..."
  pageResponse 308 [("Location", location)]
    (page title title
      (Text.ofString "You should be redirected automatically to the target URL: <a href=\"" ++
        shown ++ Text.ofString "\">" ++ shown ++
        Text.ofString "</a>. If not, click the link."))

end StyleLift.Server
