import Strata.Ecosystem
import Strata.Name

/-!
# Libraries by purpose

For each ecosystem the names of libraries that tell what a module does: access data, show
something, or talk to the platform.
-/

namespace Strata

/-- Patterns for the names of libraries. -/
structure Profile where
  /-- Libraries for storage and network access. -/
  dataAccess : List String
  /-- Libraries of the user interface. -/
  presentation : List String
  /-- Frameworks that business rules should not know. -/
  platform : List String
deriving DecidableEq, Repr

namespace Profile

/-- The libraries of Kotlin applications. -/
def kotlin : Profile where
  dataAccess :=
    ["retrofit2.**", "okhttp3.**", "io.ktor.client.**", "androidx.room.**",
      "androidx.datastore.**", "android.database.**", "java.sql.**", "java.net.**",
      "com.google.firebase.firestore.**"]
  presentation :=
    ["android.widget.**", "android.view.**", "android.app.Activity", "android.app.Fragment",
      "androidx.fragment.**", "androidx.appcompat.**", "androidx.compose.ui.**",
      "androidx.compose.material.**", "androidx.compose.material3.**",
      "androidx.compose.foundation.**"]
  platform := ["android.**", "androidx.**", "retrofit2.**", "okhttp3.**", "java.sql.**"]

/-- The libraries of Swift applications. -/
def swift : Profile where
  dataAccess :=
    ["CoreData", "Alamofire", "Moya", "RealmSwift", "GRDB", "SQLite", "FirebaseFirestore"]
  presentation := ["UIKit", "SwiftUI", "AppKit"]
  platform := ["UIKit", "SwiftUI", "AppKit", "CoreData", "Alamofire", "RealmSwift"]

/-- The libraries of TypeScript applications. -/
def typescript : Profile where
  dataAccess :=
    ["axios", "node-fetch", "prisma", "@prisma/**", "mongoose", "typeorm", "sequelize", "knex",
      "pg", "mysql2", "@supabase/**", "firebase/**"]
  presentation :=
    ["react-dom", "react-dom/**", "react-native", "@mui/**", "styled-components",
      "@angular/core", "vue", "svelte"]
  platform :=
    ["react", "react-dom/**", "react-native", "next/**", "express", "vue", "@angular/**",
      "axios", "mongoose", "@prisma/**"]

/-- The libraries of Python applications. -/
def python : Profile where
  dataAccess :=
    ["sqlalchemy.**", "django.db.**", "psycopg2.**", "pymongo.**", "redis.**", "sqlite3.**",
      "requests.**", "httpx.**", "aiohttp.**"]
  presentation :=
    ["tkinter.**", "PyQt5.**", "PyQt6.**", "PySide6.**", "jinja2.**", "django.shortcuts.**",
      "django.template.**", "flask.render_template"]
  platform :=
    ["django.**", "flask.**", "fastapi.**", "starlette.**", "sqlalchemy.**", "requests.**"]

/-- The libraries of an ecosystem. -/
def ofEcosystem : Ecosystem → Profile
  | .typescript => typescript
  | .python => python
  | .kotlin => kotlin
  | .swift => swift

/-- Whether a name fits a pattern.  A pattern without wildcards also covers the names below it. -/
def covers (name pattern : String) : Bool :=
  Name.matchesPattern name pattern ||
    (!pattern.toList.contains '*' && Name.matchesPattern name (pattern ++ "/**"))

/-- The first pattern that covers a name. -/
def firstCovering? (name : String) (patterns : List String) : Option String :=
  patterns.find? (covers name)

end Profile

end Strata
