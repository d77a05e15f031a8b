import VitaeShell.Resume

/-!
# The sample résumé

The résumé that is shown when no other is named.
-/

namespace VitaeShell

/-- An invented résumé, for a first look around. -/
def Resume.sample : Resume where
  personalInfo :=
    { name := "Jordan Rivera"
      title := "Senior Software Engineer"
      contact :=
        { email := "jordan.rivera@example.com"
          phone := some "+1 555 0100"
          website := some "https://jordanrivera.dev"
          linkedin := some "https://www.linkedin.com/in/jordan-rivera"
          github := some "https://github.com/jordan-rivera" } }
  about := "Software engineer with ten years of experience building web platforms, " ++
    "developer tooling and data pipelines."
  experience := [
    { company := "Northwind Traders"
      position := "Senior Software Engineer"
      location := "Seattle, WA"
      startDate := "2021-03"
      endDate := "Present"
      responsibilities := [
        "Led the migration of the order pipeline to an event-driven architecture",
        "Mentored four engineers and ran the backend guild",
        "Cut p99 checkout latency by 40%"] },
    { company := "Contoso Ltd."
      position := "Software Engineer"
      location := "Remote"
      startDate := "2017-06"
      endDate := "2021-02"
      responsibilities := [
        "Built internal CLI tooling in Python used by 200 developers",
        "Maintained the CI fleet and release automation"] },
    { company := "Contoso Ltd."
      position := "Junior Developer"
      location := "Portland, OR"
      startDate := "2015-09"
      endDate := "2017-05"
      responsibilities := [
        "Implemented reporting dashboards",
        "Wrote integration tests for the billing service"] }]
  skills :=
    { technical := ["Python", "TypeScript", "PostgreSQL", "Kubernetes"]
      soft := ["Mentoring", "Technical writing", "Cross-team communication"] }
  projects := [
    { name := "ResumeTerminal"
      description := "An interactive terminal for exploring a resume as a filesystem." },
    { name := "logslice"
      description :=
        "A command-line tool for slicing large structured log files by time range." }]
  education :=
    { university := "B.Sc. Computer Science, University of Washington"
      certifications := [
        "AWS Certified Solutions Architect",
        "Certified Kubernetes Application Developer"] }

end VitaeShell
