import SqlFormula.Zone

/-!
# The known time zones

Each zone starts with the mean time of its city. The changes up to the last reform are listed; after it
they follow the rules in force.

## Main definitions

- `Zone.utc`, `Zone.known` — the zones
- `Zone.named` — the zone with a name; unknown names stand for UTC
-/

namespace SqlFormula

/-- The change of a zone at a second in UTC. -/
def ZoneChange.ofPair (p : Int × Int) : ZoneChange where
  second := p.1
  offset := p.2

namespace Zone

/-- The changes between two offsets, at the given seconds in turn. -/
def alternating (offset other : Int) : List Int → List ZoneChange
  | [] => []
  | second :: seconds => ⟨second, offset⟩ :: alternating other offset seconds

/-- Coordinated universal time. -/
def utc : Zone where
  name := "UTC"
  first := 0
  changes := []

/-- The zone that is always five hours behind UTC. -/
def fiveBehind : Zone where
  name := "Etc/GMT+5"
  first := -18000
  changes := []

/-- The listed changes of Japan. -/
def tokyoChanges : List (Int × Int) :=
  [(-2587712400, 32400), (-683802000, 36000), (-672310800, 32400), (-654771600, 36000),
   (-640861200, 32400), (-620298000, 36000), (-609411600, 32400), (-588848400, 36000),
   (-577962000, 32400)]

/-- The time of Japan. -/
def tokyo : Zone where
  name := "Asia/Tokyo"
  first := 33539
  changes := tokyoChanges.map ZoneChange.ofPair

/-- The listed changes of India. -/
def kolkataChanges : List (Int × Int) :=
  [(-3645237208, 21200), (-3155694800, 19270), (-2019705670, 19800), (-891581400, 23400),
   (-872058600, 19800), (-862637400, 23400), (-764145000, 19800)]

/-- The time of India. -/
def kolkata : Zone where
  name := "Asia/Kolkata"
  first := 21208
  changes := kolkataChanges.map ZoneChange.ofPair

/-- The seconds at which clocks in France were put back to the time of Greenwich and forward again, up to 1940. -/
def parisEarlier : List Int :=
  [-1855958961, -1689814800, -1680397200, -1665363600, -1648342800, -1635123600, -1616893200,
   -1604278800, -1585443600, -1574038800, -1552266000, -1539997200, -1520557200, -1507510800,
   -1490576400, -1470618000, -1459126800, -1444006800, -1427677200, -1411952400, -1396227600,
   -1379293200, -1364778000, -1348448400, -1333328400, -1316394000, -1301274000, -1284339600,
   -1269824400, -1253494800, -1238374800, -1221440400, -1206925200, -1191200400, -1175475600,
   -1160355600, -1143421200, -1127696400, -1111971600, -1096851600, -1080522000, -1063587600,
   -1049072400, -1033347600, -1017622800, -1002502800, -986173200, -969238800, -950490000,
   -942012000]

/-- The seconds at which clocks in France were put forward to two hours ahead of UTC and back, up to 1995. -/
def parisLater : List Int :=
  [-932436000, -857257200, -844556400, -828226800, -812502000, -796266000, -781052400, -766623600,
   196819200, 212540400, 228877200, 243997200, 260326800, 276051600, 291776400, 307501200,
   323830800, 338950800, 354675600, 370400400, 386125200, 401850000, 417574800, 433299600,
   449024400, 465354000, 481078800, 496803600, 512528400, 528253200, 543978000, 559702800,
   575427600, 591152400, 606877200, 622602000, 638326800, 654656400, 670381200, 686106000,
   701830800, 717555600, 733280400, 749005200, 764730000, 780454800, 796179600, 811904400]

/-- The listed changes of France, up to 1995. -/
def parisChanges : List ZoneChange :=
  alternating 0 3600 parisEarlier ++ alternating 7200 3600 parisLater

/-- In the European Union, clocks are put forward on the last Sunday of March and back on the last Sunday of October,
at one o'clock in UTC. -/
def parisYearly : List YearlyChange :=
  [{ month := 3, sunday := none, second := 3600, offset := 7200 },
   { month := 10, sunday := none, second := 3600, offset := 3600 }]

/-- The time of France. -/
def paris : Zone where
  name := "Europe/Paris"
  first := 561
  changes := parisChanges ++ YearlyChange.schedule 1996 parisYearly

/-- The seconds at which clocks in the east of the United States were put forward and back, up to 1969. -/
def newYorkEarlier : List Int :=
  [-1633280400, -1615140000, -1601830800, -1583690400, -1570381200, -1551636000, -1536512400,
   -1523210400, -1504458000, -1491760800, -1473008400, -1459706400, -1441558800, -1428256800,
   -1410109200, -1396807200, -1378659600, -1365357600, -1347210000, -1333908000, -1315155600,
   -1301853600, -1283706000, -1270404000, -1252256400, -1238954400, -1220806800, -1207504800,
   -1189357200, -1176055200, -1157302800, -1144605600, -1125853200, -1112551200, -1094403600,
   -1081101600, -1062954000, -1049652000, -1031504400, -1018202400, -1000054800, -986752800,
   -968000400, -955303200, -936550800, -923248800, -905101200, -891799200, -880218000, -765396000,
   -747248400, -733946400, -715798800, -702496800, -684349200, -671047200, -652899600, -639597600,
   -620845200, -608148000, -589395600, -576093600, -557946000, -544644000, -526496400, -513194400,
   -495046800, -481744800, -463597200, -447271200, -431542800, -415821600, -400093200, -384372000,
   -368643600, -352922400, -337194000, -321472800, -305744400, -289418400, -273690000, -257968800,
   -242240400, -226519200, -210790800, -195069600, -179341200, -163620000, -147891600, -131565600,
   -116442000, -100116000, -84387600, -68666400, -52938000, -37216800, -21488400, -5767200]

/-- The seconds at which clocks in the east of the United States were put forward and back, from 1970 to 2006. -/
def newYorkLater : List Int :=
  [9961200, 25682400, 41410800, 57736800, 73465200, 89186400, 104914800, 120636000, 126687600,
   152085600, 162370800, 183535200, 199263600, 215589600, 230713200, 247039200, 262767600,
   278488800, 294217200, 309938400, 325666800, 341388000, 357116400, 372837600, 388566000,
   404892000, 420015600, 436341600, 452070000, 467791200, 483519600, 499240800, 514969200,
   530690400, 544604400, 562140000, 576054000, 594194400, 607503600, 625644000, 638953200,
   657093600, 671007600, 688543200, 702457200, 719992800, 733906800, 752047200, 765356400,
   783496800, 796806000, 814946400, 828860400, 846396000, 860310000, 877845600, 891759600,
   909295200, 923209200, 941349600, 954658800, 972799200, 986108400, 1004248800, 1018162800,
   1035698400, 1049612400, 1067148000, 1081062000, 1099202400, 1112511600, 1130652000, 1143961200,
   1162101600]

/-- The listed changes of the east of the United States, up to 2006. -/
def newYorkChanges : List ZoneChange :=
  ⟨-2717650800, -18000⟩ :: alternating (-14400) (-18000) (newYorkEarlier ++ newYorkLater)

/-- In the United States, clocks are put forward on the second Sunday of March and back on the first Sunday of
November, at two o'clock local time. -/
def newYorkYearly : List YearlyChange :=
  [{ month := 3, sunday := some 2, second := 25200, offset := -14400 },
   { month := 11, sunday := some 1, second := 21600, offset := -18000 }]

/-- The time of the east of the United States. -/
def newYork : Zone where
  name := "America/New_York"
  first := -17762
  changes := newYorkChanges ++ YearlyChange.schedule 2007 newYorkYearly

/-- The listed changes of Lord Howe Island, up to 2007. -/
def lordHoweChanges : List (Int × Int) :=
  [(-2364114980, 36000), (352216800, 37800), (372785400, 41400), (384273000, 37800),
   (404839800, 41400), (415722600, 37800), (436289400, 41400), (447172200, 37800),
   (467739000, 41400), (478621800, 37800), (499188600, 39600), (511282800, 37800),
   (530033400, 39600), (542732400, 37800), (562087800, 39600), (574786800, 37800),
   (594142200, 39600), (606236400, 37800), (625591800, 39600), (636476400, 37800),
   (657041400, 39600), (667926000, 37800), (688491000, 39600), (699375600, 37800),
   (719940600, 39600), (731430000, 37800), (751995000, 39600), (762879600, 37800),
   (783444600, 39600), (794329200, 37800), (814894200, 39600), (828198000, 37800),
   (846343800, 39600), (859647600, 37800), (877793400, 39600), (891097200, 37800),
   (909243000, 39600), (922546800, 37800), (941297400, 39600), (953996400, 37800),
   (967303800, 39600), (985446000, 37800), (1004196600, 39600), (1017500400, 37800),
   (1035646200, 39600), (1048950000, 37800), (1067095800, 39600), (1080399600, 37800),
   (1099150200, 39600), (1111849200, 37800), (1130599800, 39600), (1143903600, 37800),
   (1162049400, 39600), (1174748400, 37800), (1193499000, 39600)]

/-- On Lord Howe Island, clocks are put back by half an hour on the first Sunday of April and forward on the first
Sunday of October, at two o'clock local time. -/
def lordHoweYearly : List YearlyChange :=
  [{ month := 4, sunday := some 1, second := -32400, offset := 37800 },
   { month := 10, sunday := some 1, second := -30600, offset := 39600 }]

/-- The time of Lord Howe Island. -/
def lordHowe : Zone where
  name := "Australia/Lord_Howe"
  first := 38180
  changes := lordHoweChanges.map ZoneChange.ofPair ++ YearlyChange.schedule 2008 lordHoweYearly

/-- The zones with a name. -/
def known : List Zone :=
  [utc, paris, newYork, tokyo, kolkata, lordHowe, fiveBehind]

/-- The zone with a name; unknown names stand for UTC. -/
def named (name : String) : Zone :=
  (known.find? fun zone => zone.name == name).getD utc

end Zone

end SqlFormula
