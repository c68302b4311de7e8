import Airwaves.Api.Handler
/-!
# Reports and donations

Error reports sent by the web client are kept, newest first, in the cache with the
reporting listener and the time; administrators read the errors met while scanning music.
The tip jar lists the donations received, and administrators record new ones.
-/
namespace Airwaves.Api.Reports

/-- Keeps an error report from the web client. -/
def errorReport : Endpoint where
  url := "/api4/error_report"
  returnName := some "error_report_result"
  gates := { login := false, station := false }
  fields := [needs "name" .text, needs "message" .text, tolerates "lineNumber" .integer,
    tolerates "columnNumber" .integer, needs "stack" .text, needs "location" .text,
    needs "user_agent" .text, needs "browser_language" .text]
  serve v := do
    let user ← userOf v
    setArgument v "user_id" (← someUser user "id").id
    setArgument v "username" (← Listeners.dataOf (← Listeners.userOf user) "name")
    setArgument v "time" (← timestamp)
    let cached ← Cache.read "error_reports"
    let reports := match cached with
      | .list xs => xs
      | _ => []
    let report := Value.dict (← handlerOf v).cleanedArgs
    Cache.put "error_reports" (.list (report :: reports))
    standardText v "report_submitted" "Error report submitted."

/-- The errors met while scanning music, or a note that there are none. -/
def scanErrors : Endpoint where
  url := "/api4/admin/backend_scan_errors"
  returnName := some "backend_scan_errors"
  gates := { admin := true, station := false }
  serve v := do
    let cached ← Cache.read "backend_scan_errors"
    let errors ← if cached.truthy then pure cached
      else pure (.list [Value.record [("time", ← timestamp),
        ("backend_scan_errors", .str "No errors in memory.")]])
    let _ ← append v (← answerName v) errors

/-- The text listing the donations, newest first. -/
def donationsText : String :=
  "SELECT donation_id AS id, donation_amount AS amount, donation_message AS message, " ++
  "CASE WHEN donation_private IS TRUE THEN 'Anonymous' ELSE username END AS name " ++
  "FROM r4_donations LEFT JOIN phpbb_users USING (user_id) ORDER BY donation_id DESC "

/-- The donations received. -/
def tipJar : Endpoint where
  url := "/api4/tip_jar"
  returnName := some "tip_jar"
  gates := { keyed := false, station := false }
  allowGet := true
  pagination := true
  serve v := do
    let rows ← queryText .all (donationsText ++ (← pageLimit v))
    let _ ← append v (← answerName v) rows

/-- Records a donation. -/
def addDonation : Endpoint where
  url := "/api4/admin/add_donation"
  gates := { admin := true }
  fields := [needs "donor_id" .userId, needs "amount" .integer, needs "message" .text,
    needs "private" .boolean]
  serve v := do
    let done ← dbUpdate [← argument v "donor_id", ← argument v "amount", ← argument v "message",
      ← argument v "private"]
    if done.truthy then standardText v "donation_added" "Donation added."
    else Act.raise (refuse "donation_failed")

end Airwaves.Api.Reports
