import Dashkoda.EventProgramme.Attention
import Dashkoda.Lib.Zone

/-!
# The catalogue of news pages

One row for each public article, kept after the feed forgets it.  Views are not stored: they are
summed over the current page rows.
-/

open Lib

namespace Dashkoda.News

open EventProgramme (Coverage Ga4Snapshot currentDays currentPages)

/-- `TitleOrigin` -/
inductive TitleOrigin
  | feed
  | page
  deriving DecidableEq

/-- `NewsResource` -/
structure NewsResource where
  canonicalUrl : String
  path : String
  title : String
  publishedAt : Option Moment
  titleOrigin : TitleOrigin
  category : String
  firstSeenAt : Int
  deriving DecidableEq

def sumViews (rows : List (Date × Visibility.PageRow)) : Option Int :=
  if rows = [] then none else some (total (·.2.pageViews) rows)

/-- `page_view_total_subquery` -/
def pageViewTotal (snapshots : List Ga4Snapshot) (path : String) : Option Int :=
  sumViews ((currentPages snapshots).filter fun row => row.2.path = path)

end Dashkoda.News
