/-! The pages of a database. Every table and every index begins with a page, and a page given back
is used again. Free pages come in bundles of one page that lists the others. -/
namespace Conform.Sqlite

structure Pages where
  count : Nat := 0
  /-- The bundles, the newest first: the page that lists, and those that it lists. -/
  free : List (Nat × List Nat) := []
  deriving DecidableEq, Repr, Inhabited

namespace Pages

/-- How many pages one page can list. -/
def bundleSize : Nat := 1016

def freeCount (p : Pages) : Nat := p.free.foldl (fun n (_, listed) => n + listed.length + 1) 0

/-- A page to begin with: the first that the newest bundle lists, then the page that lists, and a
new one if none is free. The very first page is that of the catalog. -/
def take (p : Pages) : Nat × Pages :=
  match p.free with
  | [] =>
    let page := max p.count 1 + 1
    (page, { p with count := page })
  | (list, []) :: rest => (list, { p with free := rest })
  | (list, page :: pages) :: rest =>
    let first := pages.foldl min page
    (first, { p with free := (list, (page :: pages).erase first) :: rest })

def give (p : Pages) (page : Nat) : Pages :=
  { p with free := match p.free with
    | [] => [(page, [])]
    | (list, listed) :: rest =>
      if listed.length < bundleSize then (list, page :: listed) :: rest else (page, []) :: p.free }

end Pages

end Conform.Sqlite
