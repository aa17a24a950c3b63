import Chatflow.Time.Zone

/-! The zones that are known by name, with the moments at which their clocks were set and the offset in
seconds that held from then on. -/

namespace Chatflow.Zone

/-- Universal time. -/
def utc : Zone := ⟨"UTC", 0, [], none⟩

/-- Central Mexico, which gave up daylight saving in 2022. -/
def mexicoCity : Zone := Zone.read "America/Mexico_City" (-23796) (none)
  "-1514739600:-25200 -1343149200:-21600 -1234807200:-25200 -1220461200:-21600 -1207159200:-25200 
  -1191344400:-21600 -975261600:-18000 -963169200:-21600 -917114400:-18000 -907354800:-21600 
  -821901600:-18000 -810068400:-21600 -627501600:-18000 -612990000:-21600 828864000:-18000 
  846399600:-21600 860313600:-18000 877849200:-21600 891763200:-18000 909298800:-21600 
  923212800:-18000 941353200:-21600 954662400:-18000 972802800:-21600 989136000:-18000 
  1001833200:-21600 1018166400:-18000 1035702000:-21600 1049616000:-18000 1067151600:-21600 
  1081065600:-18000 1099206000:-21600 1112515200:-18000 1130655600:-21600 1143964800:-18000 
  1162105200:-21600 1175414400:-18000 1193554800:-21600 1207468800:-18000 1225004400:-21600 
  1238918400:-18000 1256454000:-21600 1270368000:-18000 1288508400:-21600 1301817600:-18000 
  1319958000:-21600 1333267200:-18000 1351407600:-21600 1365321600:-18000 1382857200:-21600 
  1396771200:-18000 1414306800:-21600 1428220800:-18000 1445756400:-21600 1459670400:-18000 
  1477810800:-21600 1491120000:-18000 1509260400:-21600 1522569600:-18000 1540710000:-21600 
  1554624000:-18000 1572159600:-21600 1586073600:-18000 1603609200:-21600 1617523200:-18000 
  1635663600:-21600 1648972800:-18000 1667113200:-21600"

/-- Eastern North America. -/
def newYork : Zone := Zone.read "America/New_York" (-17762) (some .american)
  "-2717650800:-18000 -1633280400:-14400 -1615140000:-18000 -1601830800:-14400 -1583690400:-18000 
  -1570381200:-14400 -1551636000:-18000 -1536512400:-14400 -1523210400:-18000 -1504458000:-14400 
  -1491760800:-18000 -1473008400:-14400 -1459706400:-18000 -1441558800:-14400 -1428256800:-18000 
  -1410109200:-14400 -1396807200:-18000 -1378659600:-14400 -1365357600:-18000 -1347210000:-14400 
  -1333908000:-18000 -1315155600:-14400 -1301853600:-18000 -1283706000:-14400 -1270404000:-18000 
  -1252256400:-14400 -1238954400:-18000 -1220806800:-14400 -1207504800:-18000 -1189357200:-14400 
  -1176055200:-18000 -1157302800:-14400 -1144605600:-18000 -1125853200:-14400 -1112551200:-18000 
  -1094403600:-14400 -1081101600:-18000 -1062954000:-14400 -1049652000:-18000 -1031504400:-14400 
  -1018202400:-18000 -1000054800:-14400 -986752800:-18000 -968000400:-14400 -955303200:-18000 
  -936550800:-14400 -923248800:-18000 -905101200:-14400 -891799200:-18000 -880218000:-14400 
  -765396000:-18000 -747248400:-14400 -733946400:-18000 -715798800:-14400 -702496800:-18000 
  -684349200:-14400 -671047200:-18000 -652899600:-14400 -639597600:-18000 -620845200:-14400 
  -608148000:-18000 -589395600:-14400 -576093600:-18000 -557946000:-14400 -544644000:-18000 
  -526496400:-14400 -513194400:-18000 -495046800:-14400 -481744800:-18000 -463597200:-14400 
  -447271200:-18000 -431542800:-14400 -415821600:-18000 -400093200:-14400 -384372000:-18000 
  -368643600:-14400 -352922400:-18000 -337194000:-14400 -321472800:-18000 -305744400:-14400 
  -289418400:-18000 -273690000:-14400 -257968800:-18000 -242240400:-14400 -226519200:-18000 
  -210790800:-14400 -195069600:-18000 -179341200:-14400 -163620000:-18000 -147891600:-14400 
  -131565600:-18000 -116442000:-14400 -100116000:-18000 -84387600:-14400 -68666400:-18000 
  -52938000:-14400 -37216800:-18000 -21488400:-14400 -5767200:-18000 9961200:-14400 25682400:-18000 
  41410800:-14400 57736800:-18000 73465200:-14400 89186400:-18000 104914800:-14400 120636000:-18000 
  126687600:-14400 152085600:-18000 162370800:-14400 183535200:-18000 199263600:-14400 
  215589600:-18000 230713200:-14400 247039200:-18000 262767600:-14400 278488800:-18000 
  294217200:-14400 309938400:-18000 325666800:-14400 341388000:-18000 357116400:-14400 
  372837600:-18000 388566000:-14400 404892000:-18000 420015600:-14400 436341600:-18000 
  452070000:-14400 467791200:-18000 483519600:-14400 499240800:-18000 514969200:-14400 
  530690400:-18000 544604400:-14400 562140000:-18000 576054000:-14400 594194400:-18000 
  607503600:-14400 625644000:-18000 638953200:-14400 657093600:-18000 671007600:-14400 
  688543200:-18000 702457200:-14400 719992800:-18000 733906800:-14400 752047200:-18000 
  765356400:-14400 783496800:-18000 796806000:-14400 814946400:-18000 828860400:-14400 
  846396000:-18000 860310000:-14400 877845600:-18000 891759600:-14400 909295200:-18000 
  923209200:-14400 941349600:-18000 954658800:-14400 972799200:-18000 986108400:-14400 
  1004248800:-18000 1018162800:-14400 1035698400:-18000 1049612400:-14400 1067148000:-18000 
  1081062000:-14400 1099202400:-18000 1112511600:-14400 1130652000:-18000 1143961200:-14400 
  1162101600:-18000 1167609600:-18000"

/-- Continental Spain. -/
def madrid : Zone := Zone.read "Europe/Madrid" (-884) (some .european)
  "-2177452800:0 -1631926800:3600 -1616889600:0 -1601168400:3600 -1585353600:0 -1442451600:3600 
  -1427673600:0 -1379293200:3600 -1364774400:0 -1348448400:3600 -1333324800:0 -1316390400:3600 
  -1301270400:0 -1284339600:3600 -1269820800:0 -1026954000:3600 -1017619200:0 -1001898000:3600 
  -999482400:7200 -986090400:3600 -954115200:0 -940208400:3600 -873079200:7200 -862621200:3600 
  -842839200:7200 -828320400:3600 -811389600:7200 -796870800:3600 -779940000:7200 -765421200:3600 
  -748490400:7200 -733971600:3600 -652327200:7200 -639018000:3600 135122400:7200 150246000:3600 
  166572000:7200 181695600:3600 196812000:7200 212540400:3600 228866400:7200 243990000:3600 
  260326800:7200 276051600:3600 291776400:7200 307501200:3600 323830800:7200 338950800:3600 
  354675600:7200 370400400:3600 386125200:7200 401850000:3600 417574800:7200 433299600:3600 
  449024400:7200 465354000:3600 481078800:7200 496803600:3600 512528400:7200 528253200:3600 
  543978000:7200 559702800:3600 575427600:7200 591152400:3600 606877200:7200 622602000:3600 
  638326800:7200 654656400:3600 670381200:7200 686106000:3600 701830800:7200 717555600:3600 
  733280400:7200 749005200:3600 764730000:7200 780454800:3600 796179600:7200 811904400:3600 
  828234000:7200 846378000:3600 852076800:3600"

/-- India. -/
def kolkata : Zone := Zone.read "Asia/Kolkata" (21208) (none)
  "-3645237208:21200 -3155694800:19270 -2019705670:19800 -891581400:23400 -872058600:19800 
  -862637400:23400 -764145000:19800"

def known : List Zone := [mexicoCity, utc, newYork, madrid, kolkata]

def find? (name : String) : Option Zone := known.find? fun zone => zone.name == name

end Chatflow.Zone
