import DocumentServer.Failure
import DocumentServer.Page.PrintOptions
import DocumentServer.Text.Utf8

/-!
Printing a page in a browser. A browser is launched for each page, and closed whatever happens to
the page.
-/
namespace DocumentServer.Page

/-- A page to print. Its links are relative to the base. -/
structure PrintJob where
  base : String
  html : String
  config : Config

/-- Anything that prints. -/
abbrev Printer := PrintJob → Except Failure Octets

inductive BrowserCall where
  | launch
  | newPage
  | goTo (url : String)
  | setContent (html : String)
  | print (options : PrintOptions)
  | close

/-- A browser answers calls, and turns the content of a page into octets. -/
structure Browser where
  answer : BrowserCall → Except Failure Unit
  paint : String → Octets

namespace Browser

/-- Makes calls in order until one fails. -/
def perform (browser : Browser) : List BrowserCall → List BrowserCall × Except Failure Unit
  | [] => ([], .ok ())
  | call :: rest =>
    match browser.answer call with
    | .ok () =>
      let (calls, result) := perform browser rest
      (call :: calls, result)
    | .error e => ([call], .error e)

/-- The calls that concern the page itself. -/
def pageCalls (job : PrintJob) : List BrowserCall :=
  [.newPage, .goTo job.base, .setContent job.html, .print job.config.printOptions]

/-- A failure to close comes before one of the page. -/
def closing (page close : Except Failure Unit) : Except Failure Unit :=
  match close with
  | .ok () => page
  | .error e => .error e

/-- Prints a page, with all calls that were made. -/
def trace (browser : Browser) (job : PrintJob) : List BrowserCall × Except Failure Octets :=
  match browser.perform [.launch] with
  | (calls, .error e) => (calls, .error e)
  | (launch, .ok ()) =>
    let (calls, page) := browser.perform (pageCalls job)
    let (close, closed) := browser.perform [.close]
    (launch ++ calls ++ close, (closing page closed).map fun () => browser.paint job.html)

def printer (browser : Browser) : Printer := fun job => (browser.trace job).2

end Browser
end DocumentServer.Page
