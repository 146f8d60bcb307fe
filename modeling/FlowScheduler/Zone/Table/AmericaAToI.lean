/-!
Zone histories of America, names from A to I; see `FlowScheduler.Zone.Database` for the notation.
-/

namespace FlowScheduler.Zone.Table

/-- Names with histories. -/
def americaAToI : List (String × List String) := [
  ("America/Adak",
    ["44002 -3225223727>-42398 -2188944802>-39600 -880196400>-36000 -765374400>-39600",
     "-21466800>-36000 -5745600>-39600 9982800>-36000 25704000>-39600 41432400>-36000",
     "57758400>-39600 73486800>-36000 89208000>-39600 104936400>-36000 120657600>-39600",
     "126709200>-36000 152107200>-39600 162392400>-36000 183556800>-39600 199285200>-36000",
     "215611200>-39600 230734800>-36000 247060800>-39600 262789200>-36000 278510400>-39600",
     "294238800>-36000 309960000>-39600 325688400>-36000 341409600>-39600 357138000>-36000",
     "372859200>-39600 388587600>-36000 404913600>-39600 420037200>-36000 452088000>-32400",
     "467809200>-36000 483537600>-32400 499258800>-36000 514987200>-32400 530708400>-36000",
     "544622400>-32400 562158000>-36000 576072000>-32400 594212400>-36000 607521600>-32400",
     "625662000>-36000 638971200>-32400 657111600>-36000 671025600>-32400 688561200>-36000",
     "702475200>-32400 720010800>-36000 733924800>-32400 752065200>-36000 765374400>-32400",
     "783514800>-36000 796824000>-32400 814964400>-36000 828878400>-32400 846414000>-36000",
     "860328000>-32400 877863600>-36000 891777600>-32400 909313200>-36000 923227200>-32400",
     "941367600>-36000 954676800>-32400 972817200>-36000 986126400>-32400 1004266800>-36000",
     "1018180800>-32400 1035716400>-36000 1049630400>-32400 1067166000>-36000 1081080000>-32400",
     "1099220400>-36000 1112529600>-32400 1130670000>-36000 1143979200>-32400 1162119600>-36000",
     "| 2007 3/6/8/43200/-32400 11/6/1/39600/-36000"]),
  ("America/Anchorage",
    ["50424 -3225223727>-35976 -2188951224>-36000 -880200000>-32400 -765378000>-36000",
     "-21470400>-32400 -5749200>-36000 9979200>-32400 25700400>-36000 41428800>-32400",
     "57754800>-36000 73483200>-32400 89204400>-36000 104932800>-32400 120654000>-36000",
     "126705600>-32400 152103600>-36000 162388800>-32400 183553200>-36000 199281600>-32400",
     "215607600>-36000 230731200>-32400 247057200>-36000 262785600>-32400 278506800>-36000",
     "294235200>-32400 309956400>-36000 325684800>-32400 341406000>-36000 357134400>-32400",
     "372855600>-36000 388584000>-32400 404910000>-36000 420033600>-32400 452084400>-28800",
     "467805600>-32400 483534000>-28800 499255200>-32400 514983600>-28800 530704800>-32400",
     "544618800>-28800 562154400>-32400 576068400>-28800 594208800>-32400 607518000>-28800",
     "625658400>-32400 638967600>-28800 657108000>-32400 671022000>-28800 688557600>-32400",
     "702471600>-28800 720007200>-32400 733921200>-28800 752061600>-32400 765370800>-28800",
     "783511200>-32400 796820400>-28800 814960800>-32400 828874800>-28800 846410400>-32400",
     "860324400>-28800 877860000>-32400 891774000>-28800 909309600>-32400 923223600>-28800",
     "941364000>-32400 954673200>-28800 972813600>-32400 986122800>-28800 1004263200>-32400",
     "1018177200>-28800 1035712800>-32400 1049626800>-28800 1067162400>-32400 1081076400>-28800",
     "1099216800>-32400 1112526000>-28800 1130666400>-32400 1143975600>-28800 1162116000>-32400",
     "| 2007 3/6/8/39600/-28800 11/6/1/36000/-32400"]),
  ("America/Araguaina",
    ["-11568 -1767214032>-10800 -1206957600>-7200 -1191362400>-10800 -1175374800>-7200",
     "-1159826400>-10800 -633819600>-7200 -622069200>-10800 -602283600>-7200 -591832800>-10800",
     "-570747600>-7200 -560210400>-10800 -539125200>-7200 -531352800>-10800 -191365200>-7200",
     "-184197600>-10800 -155163600>-7200 -150069600>-10800 -128898000>-7200 -121125600>-10800",
     "-99954000>-7200 -89589600>-10800 -68418000>-7200 -57967200>-10800 499748400>-7200",
     "511236000>-10800 530593200>-7200 540266400>-10800 562129200>-7200 571197600>-10800",
     "592974000>-7200 602042400>-10800 624423600>-7200 634701600>-10800 813726000>-7200",
     "824004000>-10800 844570800>-7200 856058400>-10800 876106800>-7200 888717600>-10800",
     "908074800>-7200 919562400>-10800 938919600>-7200 951616800>-10800 970974000>-7200",
     "982461600>-10800 1003028400>-7200 1013911200>-10800 1036292400>-7200 1045360800>-10800",
     "1350788400>-7200 1361066400>-10800"]),
  ("America/Argentina/Buenos_Aires",
    ["-14028 -2372097972>-15408 -1567453392>-14400 -1233432000>-10800 -1222981200>-14400",
     "-1205956800>-10800 -1194037200>-14400 -1172865600>-10800 -1162501200>-14400",
     "-1141329600>-10800 -1130965200>-14400 -1109793600>-10800 -1099429200>-14400",
     "-1078257600>-10800 -1067806800>-14400 -1046635200>-10800 -1036270800>-14400",
     "-1015099200>-10800 -1004734800>-14400 -983563200>-10800 -973198800>-14400",
     "-952027200>-10800 -941576400>-14400 -931032000>-10800 -900882000>-14400 -890337600>-10800",
     "-833749200>-14400 -827265600>-10800 -752274000>-14400 -733780800>-10800 -197326800>-14400",
     "-190843200>-10800 -184194000>-14400 -164491200>-10800 -152658000>-14400 -132955200>-10800",
     "-121122000>-14400 -101419200>-10800 -86821200>-14400 -71092800>-10800 -54766800>-14400",
     "-39038400>-10800 -23317200>-14400 -7588800>-10800 128142000>-7200 136605600>-10800",
     "596948400>-7200 605066400>-10800 624423600>-7200 636516000>-10800 656478000>-7200",
     "667965600>-10800 687927600>-7200 699415200>-10800 719377200>-7200 731469600>-10800",
     "1198983600>-7200 1205632800>-10800 1224385200>-7200 1237082400>-10800"]),
  ("America/Argentina/Catamarca",
    ["-15788 -2372096212>-15408 -1567453392>-14400 -1233432000>-10800 -1222981200>-14400",
     "-1205956800>-10800 -1194037200>-14400 -1172865600>-10800 -1162501200>-14400",
     "-1141329600>-10800 -1130965200>-14400 -1109793600>-10800 -1099429200>-14400",
     "-1078257600>-10800 -1067806800>-14400 -1046635200>-10800 -1036270800>-14400",
     "-1015099200>-10800 -1004734800>-14400 -983563200>-10800 -973198800>-14400",
     "-952027200>-10800 -941576400>-14400 -931032000>-10800 -900882000>-14400 -890337600>-10800",
     "-833749200>-14400 -827265600>-10800 -752274000>-14400 -733780800>-10800 -197326800>-14400",
     "-190843200>-10800 -184194000>-14400 -164491200>-10800 -152658000>-14400 -132955200>-10800",
     "-121122000>-14400 -101419200>-10800 -86821200>-14400 -71092800>-10800 -54766800>-14400",
     "-39038400>-10800 -23317200>-14400 -7588800>-10800 128142000>-7200 136605600>-10800",
     "596948400>-7200 605066400>-10800 624423600>-7200 636516000>-10800 656478000>-7200",
     "667965600>-14400 687931200>-7200 699415200>-10800 719377200>-7200 731469600>-10800",
     "1086058800>-14400 1087704000>-10800 1198983600>-7200 1205632800>-10800"]),
  ("America/Argentina/Cordoba",
    ["-15408 -1567453392>-14400 -1233432000>-10800 -1222981200>-14400 -1205956800>-10800",
     "-1194037200>-14400 -1172865600>-10800 -1162501200>-14400 -1141329600>-10800",
     "-1130965200>-14400 -1109793600>-10800 -1099429200>-14400 -1078257600>-10800",
     "-1067806800>-14400 -1046635200>-10800 -1036270800>-14400 -1015099200>-10800",
     "-1004734800>-14400 -983563200>-10800 -973198800>-14400 -952027200>-10800 -941576400>-14400",
     "-931032000>-10800 -900882000>-14400 -890337600>-10800 -833749200>-14400 -827265600>-10800",
     "-752274000>-14400 -733780800>-10800 -197326800>-14400 -190843200>-10800 -184194000>-14400",
     "-164491200>-10800 -152658000>-14400 -132955200>-10800 -121122000>-14400 -101419200>-10800",
     "-86821200>-14400 -71092800>-10800 -54766800>-14400 -39038400>-10800 -23317200>-14400",
     "-7588800>-10800 128142000>-7200 136605600>-10800 596948400>-7200 605066400>-10800",
     "624423600>-7200 636516000>-10800 656478000>-7200 667965600>-14400 687931200>-7200",
     "699415200>-10800 719377200>-7200 731469600>-10800 1198983600>-7200 1205632800>-10800",
     "1224385200>-7200 1237082400>-10800"]),
  ("America/Argentina/Jujuy",
    ["-15672 -2372096328>-15408 -1567453392>-14400 -1233432000>-10800 -1222981200>-14400",
     "-1205956800>-10800 -1194037200>-14400 -1172865600>-10800 -1162501200>-14400",
     "-1141329600>-10800 -1130965200>-14400 -1109793600>-10800 -1099429200>-14400",
     "-1078257600>-10800 -1067806800>-14400 -1046635200>-10800 -1036270800>-14400",
     "-1015099200>-10800 -1004734800>-14400 -983563200>-10800 -973198800>-14400",
     "-952027200>-10800 -941576400>-14400 -931032000>-10800 -900882000>-14400 -890337600>-10800",
     "-833749200>-14400 -827265600>-10800 -752274000>-14400 -733780800>-10800 -197326800>-14400",
     "-190843200>-10800 -184194000>-14400 -164491200>-10800 -152658000>-14400 -132955200>-10800",
     "-121122000>-14400 -101419200>-10800 -86821200>-14400 -71092800>-10800 -54766800>-14400",
     "-39038400>-10800 -23317200>-14400 -7588800>-10800 128142000>-7200 136605600>-10800",
     "596948400>-7200 605066400>-10800 624423600>-7200 636516000>-14400 657086400>-10800",
     "669178800>-14400 686721600>-7200 699415200>-10800 719377200>-7200 731469600>-10800",
     "1198983600>-7200 1205632800>-10800"]),
  ("America/Argentina/La_Rioja",
    ["-16044 -2372095956>-15408 -1567453392>-14400 -1233432000>-10800 -1222981200>-14400",
     "-1205956800>-10800 -1194037200>-14400 -1172865600>-10800 -1162501200>-14400",
     "-1141329600>-10800 -1130965200>-14400 -1109793600>-10800 -1099429200>-14400",
     "-1078257600>-10800 -1067806800>-14400 -1046635200>-10800 -1036270800>-14400",
     "-1015099200>-10800 -1004734800>-14400 -983563200>-10800 -973198800>-14400",
     "-952027200>-10800 -941576400>-14400 -931032000>-10800 -900882000>-14400 -890337600>-10800",
     "-833749200>-14400 -827265600>-10800 -752274000>-14400 -733780800>-10800 -197326800>-14400",
     "-190843200>-10800 -184194000>-14400 -164491200>-10800 -152658000>-14400 -132955200>-10800",
     "-121122000>-14400 -101419200>-10800 -86821200>-14400 -71092800>-10800 -54766800>-14400",
     "-39038400>-10800 -23317200>-14400 -7588800>-10800 128142000>-7200 136605600>-10800",
     "596948400>-7200 605066400>-10800 624423600>-7200 636516000>-10800 656478000>-7200",
     "667792800>-14400 673588800>-10800 687927600>-7200 699415200>-10800 719377200>-7200",
     "731469600>-10800 1086058800>-14400 1087704000>-10800 1198983600>-7200 1205632800>-10800"]),
  ("America/Argentina/Mendoza",
    ["-16516 -2372095484>-15408 -1567453392>-14400 -1233432000>-10800 -1222981200>-14400",
     "-1205956800>-10800 -1194037200>-14400 -1172865600>-10800 -1162501200>-14400",
     "-1141329600>-10800 -1130965200>-14400 -1109793600>-10800 -1099429200>-14400",
     "-1078257600>-10800 -1067806800>-14400 -1046635200>-10800 -1036270800>-14400",
     "-1015099200>-10800 -1004734800>-14400 -983563200>-10800 -973198800>-14400",
     "-952027200>-10800 -941576400>-14400 -931032000>-10800 -900882000>-14400 -890337600>-10800",
     "-833749200>-14400 -827265600>-10800 -752274000>-14400 -733780800>-10800 -197326800>-14400",
     "-190843200>-10800 -184194000>-14400 -164491200>-10800 -152658000>-14400 -132955200>-10800",
     "-121122000>-14400 -101419200>-10800 -86821200>-14400 -71092800>-10800 -54766800>-14400",
     "-39038400>-10800 -23317200>-14400 -7588800>-10800 128142000>-7200 136605600>-10800",
     "596948400>-7200 605066400>-10800 624423600>-7200 636516000>-14400 655963200>-10800",
     "667796400>-14400 687499200>-10800 699418800>-14400 719380800>-7200 731469600>-10800",
     "1085281200>-14400 1096171200>-10800 1198983600>-7200 1205632800>-10800"]),
  ("America/Argentina/Rio_Gallegos",
    ["-16612 -2372095388>-15408 -1567453392>-14400 -1233432000>-10800 -1222981200>-14400",
     "-1205956800>-10800 -1194037200>-14400 -1172865600>-10800 -1162501200>-14400",
     "-1141329600>-10800 -1130965200>-14400 -1109793600>-10800 -1099429200>-14400",
     "-1078257600>-10800 -1067806800>-14400 -1046635200>-10800 -1036270800>-14400",
     "-1015099200>-10800 -1004734800>-14400 -983563200>-10800 -973198800>-14400",
     "-952027200>-10800 -941576400>-14400 -931032000>-10800 -900882000>-14400 -890337600>-10800",
     "-833749200>-14400 -827265600>-10800 -752274000>-14400 -733780800>-10800 -197326800>-14400",
     "-190843200>-10800 -184194000>-14400 -164491200>-10800 -152658000>-14400 -132955200>-10800",
     "-121122000>-14400 -101419200>-10800 -86821200>-14400 -71092800>-10800 -54766800>-14400",
     "-39038400>-10800 -23317200>-14400 -7588800>-10800 128142000>-7200 136605600>-10800",
     "596948400>-7200 605066400>-10800 624423600>-7200 636516000>-10800 656478000>-7200",
     "667965600>-10800 687927600>-7200 699415200>-10800 719377200>-7200 731469600>-10800",
     "1086058800>-14400 1087704000>-10800 1198983600>-7200 1205632800>-10800"]),
  ("America/Argentina/Salta",
    ["-15700 -2372096300>-15408 -1567453392>-14400 -1233432000>-10800 -1222981200>-14400",
     "-1205956800>-10800 -1194037200>-14400 -1172865600>-10800 -1162501200>-14400",
     "-1141329600>-10800 -1130965200>-14400 -1109793600>-10800 -1099429200>-14400",
     "-1078257600>-10800 -1067806800>-14400 -1046635200>-10800 -1036270800>-14400",
     "-1015099200>-10800 -1004734800>-14400 -983563200>-10800 -973198800>-14400",
     "-952027200>-10800 -941576400>-14400 -931032000>-10800 -900882000>-14400 -890337600>-10800",
     "-833749200>-14400 -827265600>-10800 -752274000>-14400 -733780800>-10800 -197326800>-14400",
     "-190843200>-10800 -184194000>-14400 -164491200>-10800 -152658000>-14400 -132955200>-10800",
     "-121122000>-14400 -101419200>-10800 -86821200>-14400 -71092800>-10800 -54766800>-14400",
     "-39038400>-10800 -23317200>-14400 -7588800>-10800 128142000>-7200 136605600>-10800",
     "596948400>-7200 605066400>-10800 624423600>-7200 636516000>-10800 656478000>-7200",
     "667965600>-14400 687931200>-7200 699415200>-10800 719377200>-7200 731469600>-10800",
     "1198983600>-7200 1205632800>-10800"]),
  ("America/Argentina/San_Juan",
    ["-16444 -2372095556>-15408 -1567453392>-14400 -1233432000>-10800 -1222981200>-14400",
     "-1205956800>-10800 -1194037200>-14400 -1172865600>-10800 -1162501200>-14400",
     "-1141329600>-10800 -1130965200>-14400 -1109793600>-10800 -1099429200>-14400",
     "-1078257600>-10800 -1067806800>-14400 -1046635200>-10800 -1036270800>-14400",
     "-1015099200>-10800 -1004734800>-14400 -983563200>-10800 -973198800>-14400",
     "-952027200>-10800 -941576400>-14400 -931032000>-10800 -900882000>-14400 -890337600>-10800",
     "-833749200>-14400 -827265600>-10800 -752274000>-14400 -733780800>-10800 -197326800>-14400",
     "-190843200>-10800 -184194000>-14400 -164491200>-10800 -152658000>-14400 -132955200>-10800",
     "-121122000>-14400 -101419200>-10800 -86821200>-14400 -71092800>-10800 -54766800>-14400",
     "-39038400>-10800 -23317200>-14400 -7588800>-10800 128142000>-7200 136605600>-10800",
     "596948400>-7200 605066400>-10800 624423600>-7200 636516000>-10800 656478000>-7200",
     "667792800>-14400 673588800>-10800 687927600>-7200 699415200>-10800 719377200>-7200",
     "731469600>-10800 1085972400>-14400 1090728000>-10800 1198983600>-7200 1205632800>-10800"]),
  ("America/Argentina/San_Luis",
    ["-15924 -2372096076>-15408 -1567453392>-14400 -1233432000>-10800 -1222981200>-14400",
     "-1205956800>-10800 -1194037200>-14400 -1172865600>-10800 -1162501200>-14400",
     "-1141329600>-10800 -1130965200>-14400 -1109793600>-10800 -1099429200>-14400",
     "-1078257600>-10800 -1067806800>-14400 -1046635200>-10800 -1036270800>-14400",
     "-1015099200>-10800 -1004734800>-14400 -983563200>-10800 -973198800>-14400",
     "-952027200>-10800 -941576400>-14400 -931032000>-10800 -900882000>-14400 -890337600>-10800",
     "-833749200>-14400 -827265600>-10800 -752274000>-14400 -733780800>-10800 -197326800>-14400",
     "-190843200>-10800 -184194000>-14400 -164491200>-10800 -152658000>-14400 -132955200>-10800",
     "-121122000>-14400 -101419200>-10800 -86821200>-14400 -71092800>-10800 -54766800>-14400",
     "-39038400>-10800 -23317200>-14400 -7588800>-10800 128142000>-7200 136605600>-10800",
     "596948400>-7200 605066400>-10800 624423600>-7200 637380000>-14400 655963200>-10800",
     "667796400>-14400 675748800>-10800 1085972400>-14400 1090728000>-10800 1198983600>-7200",
     "1200880800>-10800 1205031600>-14400 1223784000>-10800 1236481200>-14400 1255233600>-10800"]),
  ("America/Argentina/Tucuman",
    ["-15652 -2372096348>-15408 -1567453392>-14400 -1233432000>-10800 -1222981200>-14400",
     "-1205956800>-10800 -1194037200>-14400 -1172865600>-10800 -1162501200>-14400",
     "-1141329600>-10800 -1130965200>-14400 -1109793600>-10800 -1099429200>-14400",
     "-1078257600>-10800 -1067806800>-14400 -1046635200>-10800 -1036270800>-14400",
     "-1015099200>-10800 -1004734800>-14400 -983563200>-10800 -973198800>-14400",
     "-952027200>-10800 -941576400>-14400 -931032000>-10800 -900882000>-14400 -890337600>-10800",
     "-833749200>-14400 -827265600>-10800 -752274000>-14400 -733780800>-10800 -197326800>-14400",
     "-190843200>-10800 -184194000>-14400 -164491200>-10800 -152658000>-14400 -132955200>-10800",
     "-121122000>-14400 -101419200>-10800 -86821200>-14400 -71092800>-10800 -54766800>-14400",
     "-39038400>-10800 -23317200>-14400 -7588800>-10800 128142000>-7200 136605600>-10800",
     "596948400>-7200 605066400>-10800 624423600>-7200 636516000>-10800 656478000>-7200",
     "667965600>-14400 687931200>-7200 699415200>-10800 719377200>-7200 731469600>-10800",
     "1086058800>-14400 1087099200>-10800 1198983600>-7200 1205632800>-10800 1224385200>-7200",
     "1237082400>-10800"]),
  ("America/Argentina/Ushuaia",
    ["-16392 -2372095608>-15408 -1567453392>-14400 -1233432000>-10800 -1222981200>-14400",
     "-1205956800>-10800 -1194037200>-14400 -1172865600>-10800 -1162501200>-14400",
     "-1141329600>-10800 -1130965200>-14400 -1109793600>-10800 -1099429200>-14400",
     "-1078257600>-10800 -1067806800>-14400 -1046635200>-10800 -1036270800>-14400",
     "-1015099200>-10800 -1004734800>-14400 -983563200>-10800 -973198800>-14400",
     "-952027200>-10800 -941576400>-14400 -931032000>-10800 -900882000>-14400 -890337600>-10800",
     "-833749200>-14400 -827265600>-10800 -752274000>-14400 -733780800>-10800 -197326800>-14400",
     "-190843200>-10800 -184194000>-14400 -164491200>-10800 -152658000>-14400 -132955200>-10800",
     "-121122000>-14400 -101419200>-10800 -86821200>-14400 -71092800>-10800 -54766800>-14400",
     "-39038400>-10800 -23317200>-14400 -7588800>-10800 128142000>-7200 136605600>-10800",
     "596948400>-7200 605066400>-10800 624423600>-7200 636516000>-10800 656478000>-7200",
     "667965600>-10800 687927600>-7200 699415200>-10800 719377200>-7200 731469600>-10800",
     "1085886000>-14400 1087704000>-10800 1198983600>-7200 1205632800>-10800"]),
  ("America/Asuncion",
    ["-13840 -1206389360>-14400 86760000>-10800 134017200>-14400 181368000>-10800",
     "194497200>-14400 212990400>-10800 226033200>-14400 244526400>-10800 257569200>-14400",
     "276062400>-10800 291783600>-14400 307598400>-10800 323406000>-14400 339220800>-10800",
     "354942000>-14400 370756800>-10800 386478000>-14400 402292800>-10800 418014000>-14400",
     "433828800>-10800 449636400>-14400 465451200>-10800 481172400>-14400 496987200>-10800",
     "512708400>-14400 528523200>-10800 544244400>-14400 560059200>-10800 575866800>-14400",
     "591681600>-10800 607402800>-14400 625032000>-10800 638938800>-14400 654753600>-10800",
     "670474800>-14400 686721600>-10800 699418800>-14400 718257600>-10800 733546800>-14400",
     "749448000>-10800 762318000>-14400 780984000>-10800 793767600>-14400 812520000>-10800",
     "825649200>-14400 844574400>-10800 856666800>-14400 876024000>-10800 888721200>-14400",
     "907473600>-10800 920775600>-14400 938923200>-10800 952225200>-14400 970372800>-10800",
     "983674800>-14400 1002427200>-10800 1018148400>-14400 1030852800>-10800 1049598000>-14400",
     "1062907200>-10800 1081047600>-14400 1097985600>-10800 1110682800>-14400 1129435200>-10800",
     "1142132400>-14400 1160884800>-10800 1173582000>-14400 1192939200>-10800 1205031600>-14400",
     "1224388800>-10800 1236481200>-14400 1255838400>-10800 1270954800>-14400 1286078400>-10800",
     "1302404400>-14400 1317528000>-10800 1333854000>-14400 1349582400>-10800 1364094000>-14400",
     "1381032000>-10800 1395543600>-14400 1412481600>-10800 1426993200>-14400 1443931200>-10800",
     "1459047600>-14400 1475380800>-10800 1490497200>-14400 1506830400>-10800 1521946800>-14400",
     "1538884800>-10800 1553396400>-14400 1570334400>-10800 1584846000>-14400 1601784000>-10800",
     "1616900400>-14400 1633233600>-10800 1648350000>-14400 1664683200>-10800 1679799600>-14400",
     "1696132800>-10800 1711249200>-14400 1728187200>-10800"]),
  ("America/Bahia",
    ["-9244 -1767216356>-10800 -1206957600>-7200 -1191362400>-10800 -1175374800>-7200",
     "-1159826400>-10800 -633819600>-7200 -622069200>-10800 -602283600>-7200 -591832800>-10800",
     "-570747600>-7200 -560210400>-10800 -539125200>-7200 -531352800>-10800 -191365200>-7200",
     "-184197600>-10800 -155163600>-7200 -150069600>-10800 -128898000>-7200 -121125600>-10800",
     "-99954000>-7200 -89589600>-10800 -68418000>-7200 -57967200>-10800 499748400>-7200",
     "511236000>-10800 530593200>-7200 540266400>-10800 562129200>-7200 571197600>-10800",
     "592974000>-7200 602042400>-10800 624423600>-7200 634701600>-10800 656478000>-7200",
     "666756000>-10800 687927600>-7200 697600800>-10800 719982000>-7200 728445600>-10800",
     "750826800>-7200 761709600>-10800 782276400>-7200 793159200>-10800 813726000>-7200",
     "824004000>-10800 844570800>-7200 856058400>-10800 876106800>-7200 888717600>-10800",
     "908074800>-7200 919562400>-10800 938919600>-7200 951616800>-10800 970974000>-7200",
     "982461600>-10800 1003028400>-7200 1013911200>-10800 1036292400>-7200 1045360800>-10800",
     "1318734000>-7200 1330221600>-10800"]),
  ("America/Bahia_Banderas",
    ["-25260 -1514739600>-25200 -1343149200>-21600 -1234807200>-25200 -1220461200>-21600",
     "-1207159200>-25200 -1191344400>-21600 -873828000>-25200 828867600>-21600 846403200>-25200",
     "860317200>-21600 877852800>-25200 891766800>-21600 909302400>-25200 923216400>-21600",
     "941356800>-25200 954666000>-21600 972806400>-25200 989139600>-21600 1001836800>-25200",
     "1018170000>-21600 1035705600>-25200 1049619600>-21600 1067155200>-25200 1081069200>-21600",
     "1099209600>-25200 1112518800>-21600 1130659200>-25200 1143968400>-21600 1162108800>-25200",
     "1175418000>-21600 1193558400>-25200 1207472400>-21600 1225008000>-25200 1238922000>-21600",
     "1256457600>-25200 1270371600>-18000 1288508400>-21600 1301817600>-18000 1319958000>-21600",
     "1333267200>-18000 1351407600>-21600 1365321600>-18000 1382857200>-21600 1396771200>-18000",
     "1414306800>-21600 1428220800>-18000 1445756400>-21600 1459670400>-18000 1477810800>-21600",
     "1491120000>-18000 1509260400>-21600 1522569600>-18000 1540710000>-21600 1554624000>-18000",
     "1572159600>-21600 1586073600>-18000 1603609200>-21600 1617523200>-18000 1635663600>-21600",
     "1648972800>-18000 1667113200>-21600"]),
  ("America/Barbados",
    ["-14309 -1841256091>-14400 -874263600>-10800 -862682400>-14400 -841604400>-10800",
     "-830714400>-14400 -811882800>-12600 -798660000>-14400 234943200>-10800 244616400>-14400",
     "261554400>-10800 276066000>-14400 293004000>-10800 307515600>-14400 325058400>-10800",
     "338706000>-14400"]),
  ("America/Belem",
    ["-11636 -1767213964>-10800 -1206957600>-7200 -1191362400>-10800 -1175374800>-7200",
     "-1159826400>-10800 -633819600>-7200 -622069200>-10800 -602283600>-7200 -591832800>-10800",
     "-570747600>-7200 -560210400>-10800 -539125200>-7200 -531352800>-10800 -191365200>-7200",
     "-184197600>-10800 -155163600>-7200 -150069600>-10800 -128898000>-7200 -121125600>-10800",
     "-99954000>-7200 -89589600>-10800 -68418000>-7200 -57967200>-10800 499748400>-7200",
     "511236000>-10800 530593200>-7200 540266400>-10800 562129200>-7200 571197600>-10800"]),
  ("America/Belize",
    ["-21168 -1822500432>-21600 -1616954400>-19800 -1606069800>-21600 -1585504800>-19800",
     "-1574015400>-21600 -1554055200>-19800 -1542565800>-21600 -1522605600>-19800",
     "-1511116200>-21600 -1490551200>-19800 -1479666600>-21600 -1459101600>-19800",
     "-1448217000>-21600 -1427652000>-19800 -1416162600>-21600 -1396202400>-19800",
     "-1384713000>-21600 -1364752800>-19800 -1353263400>-21600 -1333303200>-19800",
     "-1321813800>-21600 -1301248800>-19800 -1290364200>-21600 -1269799200>-19800",
     "-1258914600>-21600 -1238349600>-19800 -1226860200>-21600 -1206900000>-19800",
     "-1195410600>-21600 -1175450400>-19800 -1163961000>-21600 -1143396000>-19800",
     "-1132511400>-21600 -1111946400>-19800 -1101061800>-21600 -1080496800>-19800",
     "-1069612200>-21600 -1049047200>-19800 -1037557800>-21600 -1017597600>-19800",
     "-1006108200>-21600 -986148000>-19800 -974658600>-21600 -954093600>-19800 -943209000>-21600",
     "-922644000>-19800 -911759400>-21600 -891194400>-19800 -879705000>-21600 -868212000>-18000",
     "-758746800>-21600 -701892000>-19800 -690402600>-21600 -670442400>-19800 -658953000>-21600",
     "-638992800>-19800 -627503400>-21600 -606938400>-19800 -596053800>-21600 -575488800>-19800",
     "-564604200>-21600 -544039200>-19800 -532549800>-21600 -512589600>-19800 -501100200>-21600",
     "-481140000>-19800 -469650600>-21600 -449690400>-19800 -438201000>-21600 -417636000>-19800",
     "-406751400>-21600 -386186400>-19800 -375301800>-21600 -354736800>-19800 -343247400>-21600",
     "-323287200>-19800 -311797800>-21600 -291837600>-19800 -280348200>-21600 -259783200>-19800",
     "-248898600>-21600 -228333600>-19800 -217449000>-21600 -196884000>-19800 -185999400>-21600",
     "-165434400>-19800 -153945000>-21600 -133984800>-19800 -122495400>-21600 -102535200>-19800",
     "-91045800>-21600 -70480800>-19800 -59596200>-21600 123919200>-18000 129618000>-21600",
     "409039200>-18000 413874000>-21600"]),
  ("America/Boa_Vista",
    ["-14560 -1767211040>-14400 -1206954000>-10800 -1191358800>-14400 -1175371200>-10800",
     "-1159822800>-14400 -633816000>-10800 -622065600>-14400 -602280000>-10800 -591829200>-14400",
     "-570744000>-10800 -560206800>-14400 -539121600>-10800 -531349200>-14400 -191361600>-10800",
     "-184194000>-14400 -155160000>-10800 -150066000>-14400 -128894400>-10800 -121122000>-14400",
     "-99950400>-10800 -89586000>-14400 -68414400>-10800 -57963600>-14400 499752000>-10800",
     "511239600>-14400 530596800>-10800 540270000>-14400 562132800>-10800 571201200>-14400",
     "938923200>-10800 951620400>-14400 970977600>-10800 971578800>-14400"]),
  ("America/Bogota",
    ["-17776 -1739041424>-18000 704869200>-14400 729057600>-18000"]),
  ("America/Boise",
    ["-27889 -2717640000>-28800 -1633269600>-25200 -1615129200>-28800 -1601820000>-25200",
     "-1583679600>-28800 -1471788000>-25200 -880210800>-21600 -765388800>-25200 -84380400>-21600",
     "-68659200>-25200 -52930800>-21600 -37209600>-25200 -21481200>-21600 -5760000>-25200",
     "9968400>-21600 25689600>-25200 41418000>-21600 57744000>-25200 73472400>-21600",
     "89193600>-25200 104922000>-21600 120643200>-25200 129114000>-21600 152092800>-25200",
     "162378000>-21600 183542400>-25200 199270800>-21600 215596800>-25200 230720400>-21600",
     "247046400>-25200 262774800>-21600 278496000>-25200 294224400>-21600 309945600>-25200",
     "325674000>-21600 341395200>-25200 357123600>-21600 372844800>-25200 388573200>-21600",
     "404899200>-25200 420022800>-21600 436348800>-25200 452077200>-21600 467798400>-25200",
     "483526800>-21600 499248000>-25200 514976400>-21600 530697600>-25200 544611600>-21600",
     "562147200>-25200 576061200>-21600 594201600>-25200 607510800>-21600 625651200>-25200",
     "638960400>-21600 657100800>-25200 671014800>-21600 688550400>-25200 702464400>-21600",
     "720000000>-25200 733914000>-21600 752054400>-25200 765363600>-21600 783504000>-25200",
     "796813200>-21600 814953600>-25200 828867600>-21600 846403200>-25200 860317200>-21600",
     "877852800>-25200 891766800>-21600 909302400>-25200 923216400>-21600 941356800>-25200",
     "954666000>-21600 972806400>-25200 986115600>-21600 1004256000>-25200 1018170000>-21600",
     "1035705600>-25200 1049619600>-21600 1067155200>-25200 1081069200>-21600 1099209600>-25200",
     "1112518800>-21600 1130659200>-25200 1143968400>-21600 1162108800>-25200 | 2007",
     "3/6/8/32400/-21600 11/6/1/28800/-25200"]),
  ("America/Cambridge_Bay",
    ["0 -1577923200>-25200 -880210800>-21600 -765388800>-25200 73472400>-21600 89193600>-25200",
     "104922000>-21600 120643200>-25200 136371600>-21600 152092800>-25200 167821200>-21600",
     "183542400>-25200 199270800>-21600 215596800>-25200 230720400>-21600 247046400>-25200",
     "262774800>-21600 278496000>-25200 294224400>-21600 309945600>-25200 325674000>-21600",
     "341395200>-25200 357123600>-21600 372844800>-25200 388573200>-21600 404899200>-25200",
     "420022800>-21600 436348800>-25200 452077200>-21600 467798400>-25200 483526800>-21600",
     "499248000>-25200 514976400>-21600 530697600>-25200 544611600>-21600 562147200>-25200",
     "576061200>-21600 594201600>-25200 607510800>-21600 625651200>-25200 638960400>-21600",
     "657100800>-25200 671014800>-21600 688550400>-25200 702464400>-21600 720000000>-25200",
     "733914000>-21600 752054400>-25200 765363600>-21600 783504000>-25200 796813200>-21600",
     "814953600>-25200 828867600>-21600 846403200>-25200 860317200>-21600 877852800>-25200",
     "891766800>-21600 909302400>-25200 923216400>-21600 954662400>-18000 973400400>-21600",
     "1004256000>-25200 1018170000>-21600 1035705600>-25200 1049619600>-21600 1067155200>-25200",
     "1081069200>-21600 1099209600>-25200 1112518800>-21600 1130659200>-25200 1143968400>-21600",
     "1162108800>-25200 | 2007 3/6/8/32400/-21600 11/6/1/28800/-25200"]),
  ("America/Campo_Grande",
    ["-13108 -1767212492>-14400 -1206954000>-10800 -1191358800>-14400 -1175371200>-10800",
     "-1159822800>-14400 -633816000>-10800 -622065600>-14400 -602280000>-10800 -591829200>-14400",
     "-570744000>-10800 -560206800>-14400 -539121600>-10800 -531349200>-14400 -191361600>-10800",
     "-184194000>-14400 -155160000>-10800 -150066000>-14400 -128894400>-10800 -121122000>-14400",
     "-99950400>-10800 -89586000>-14400 -68414400>-10800 -57963600>-14400 499752000>-10800",
     "511239600>-14400 530596800>-10800 540270000>-14400 562132800>-10800 571201200>-14400",
     "592977600>-10800 602046000>-14400 624427200>-10800 634705200>-14400 656481600>-10800",
     "666759600>-14400 687931200>-10800 697604400>-14400 719985600>-10800 728449200>-14400",
     "750830400>-10800 761713200>-14400 782280000>-10800 793162800>-14400 813729600>-10800",
     "824007600>-14400 844574400>-10800 856062000>-14400 876110400>-10800 888721200>-14400",
     "908078400>-10800 919566000>-14400 938923200>-10800 951620400>-14400 970977600>-10800",
     "982465200>-14400 1003032000>-10800 1013914800>-14400 1036296000>-10800 1045364400>-14400",
     "1066536000>-10800 1076814000>-14400 1099368000>-10800 1108868400>-14400 1129435200>-10800",
     "1140318000>-14400 1162699200>-10800 1172372400>-14400 1192334400>-10800 1203217200>-14400",
     "1224388800>-10800 1234666800>-14400 1255838400>-10800 1266721200>-14400 1287288000>-10800",
     "1298170800>-14400 1318737600>-10800 1330225200>-14400 1350792000>-10800 1361070000>-14400",
     "1382241600>-10800 1392519600>-14400 1413691200>-10800 1424574000>-14400 1445140800>-10800",
     "1456023600>-14400 1476590400>-10800 1487473200>-14400 1508040000>-10800 1518922800>-14400",
     "1541304000>-10800 1550372400>-14400"]),
  ("America/Cancun",
    ["-20824 -1514743200>-21600 378201600>-18000 410504400>-21600 828864000>-18000",
     "846399600>-21600 860313600>-18000 891759600>-14400 902037600>-18000 909298800>-21600",
     "923212800>-18000 941353200>-21600 954662400>-18000 972802800>-21600 989136000>-18000",
     "1001833200>-21600 1018166400>-18000 1035702000>-21600 1049616000>-18000 1067151600>-21600",
     "1081065600>-18000 1099206000>-21600 1112515200>-18000 1130655600>-21600 1143964800>-18000",
     "1162105200>-21600 1175414400>-18000 1193554800>-21600 1207468800>-18000 1225004400>-21600",
     "1238918400>-18000 1256454000>-21600 1270368000>-18000 1288508400>-21600 1301817600>-18000",
     "1319958000>-21600 1333267200>-18000 1351407600>-21600 1365321600>-18000 1382857200>-21600",
     "1396771200>-18000 1414306800>-21600 1422777600>-18000"]),
  ("America/Caracas",
    ["-16064 -2524505536>-16060 -1826739140>-16200 -157750200>-14400 1197183600>-16200",
     "1462086000>-14400"]),
  ("America/Cayenne",
    ["-12560 -1846269040>-14400 -71092800>-10800"]),
  ("America/Chicago",
    ["-21036 -2717647200>-21600 -1633276800>-18000 -1615136400>-21600 -1601827200>-18000",
     "-1583686800>-21600 -1563724800>-18000 -1551632400>-21600 -1538928000>-18000",
     "-1520182800>-21600 -1504454400>-18000 -1491757200>-21600 -1473004800>-18000",
     "-1459702800>-21600 -1441555200>-18000 -1428253200>-21600 -1410105600>-18000",
     "-1396803600>-21600 -1378656000>-18000 -1365354000>-21600 -1347206400>-18000",
     "-1333904400>-21600 -1315152000>-18000 -1301850000>-21600 -1283702400>-18000",
     "-1270400400>-21600 -1252252800>-18000 -1238950800>-21600 -1220803200>-18000",
     "-1207501200>-21600 -1189353600>-18000 -1176051600>-21600 -1157299200>-18000",
     "-1144602000>-21600 -1125849600>-18000 -1112547600>-21600 -1094400000>-18000",
     "-1081098000>-21600 -1067788800>-18000 -1045414800>-21600 -1031500800>-18000",
     "-1018198800>-21600 -1000051200>-18000 -986749200>-21600 -967996800>-18000",
     "-955299600>-21600 -936547200>-18000 -923245200>-21600 -905097600>-18000 -891795600>-21600",
     "-880214400>-18000 -765392400>-21600 -747244800>-18000 -733942800>-21600 -715795200>-18000",
     "-702493200>-21600 -684345600>-18000 -671043600>-21600 -652896000>-18000 -639594000>-21600",
     "-620841600>-18000 -608144400>-21600 -589392000>-18000 -576090000>-21600 -557942400>-18000",
     "-544640400>-21600 -526492800>-18000 -513190800>-21600 -495043200>-18000 -481741200>-21600",
     "-463593600>-18000 -447267600>-21600 -431539200>-18000 -415818000>-21600 -400089600>-18000",
     "-384368400>-21600 -368640000>-18000 -352918800>-21600 -337190400>-18000 -321469200>-21600",
     "-305740800>-18000 -289414800>-21600 -273686400>-18000 -257965200>-21600 -242236800>-18000",
     "-226515600>-21600 -210787200>-18000 -195066000>-21600 -179337600>-18000 -163616400>-21600",
     "-147888000>-18000 -131562000>-21600 -116438400>-18000 -100112400>-21600 -84384000>-18000",
     "-68662800>-21600 -52934400>-18000 -37213200>-21600 -21484800>-18000 -5763600>-21600",
     "9964800>-18000 25686000>-21600 41414400>-18000 57740400>-21600 73468800>-18000",
     "89190000>-21600 104918400>-18000 120639600>-21600 126691200>-18000 152089200>-21600",
     "162374400>-18000 183538800>-21600 199267200>-18000 215593200>-21600 230716800>-18000",
     "247042800>-21600 262771200>-18000 278492400>-21600 294220800>-18000 309942000>-21600",
     "325670400>-18000 341391600>-21600 357120000>-18000 372841200>-21600 388569600>-18000",
     "404895600>-21600 420019200>-18000 436345200>-21600 452073600>-18000 467794800>-21600",
     "483523200>-18000 499244400>-21600 514972800>-18000 530694000>-21600 544608000>-18000",
     "562143600>-21600 576057600>-18000 594198000>-21600 607507200>-18000 625647600>-21600",
     "638956800>-18000 657097200>-21600 671011200>-18000 688546800>-21600 702460800>-18000",
     "719996400>-21600 733910400>-18000 752050800>-21600 765360000>-18000 783500400>-21600",
     "796809600>-18000 814950000>-21600 828864000>-18000 846399600>-21600 860313600>-18000",
     "877849200>-21600 891763200>-18000 909298800>-21600 923212800>-18000 941353200>-21600",
     "954662400>-18000 972802800>-21600 986112000>-18000 1004252400>-21600 1018166400>-18000",
     "1035702000>-21600 1049616000>-18000 1067151600>-21600 1081065600>-18000 1099206000>-21600",
     "1112515200>-18000 1130655600>-21600 1143964800>-18000 1162105200>-21600 | 2007",
     "3/6/8/28800/-18000 11/6/1/25200/-21600"]),
  ("America/Chihuahua",
    ["-25460 -1514739600>-25200 -1343149200>-21600 -1234807200>-25200 -1220461200>-21600",
     "-1207159200>-25200 -1191344400>-21600 828864000>-18000 846399600>-21600 860313600>-18000",
     "877849200>-21600 909302400>-25200 923216400>-21600 941356800>-25200 954666000>-21600",
     "972806400>-25200 989139600>-21600 1001836800>-25200 1018170000>-21600 1035705600>-25200",
     "1049619600>-21600 1067155200>-25200 1081069200>-21600 1099209600>-25200 1112518800>-21600",
     "1130659200>-25200 1143968400>-21600 1162108800>-25200 1175418000>-21600 1193558400>-25200",
     "1207472400>-21600 1225008000>-25200 1238922000>-21600 1256457600>-25200 1270371600>-21600",
     "1288512000>-25200 1301821200>-21600 1319961600>-25200 1333270800>-21600 1351411200>-25200",
     "1365325200>-21600 1382860800>-25200 1396774800>-21600 1414310400>-25200 1428224400>-21600",
     "1445760000>-25200 1459674000>-21600 1477814400>-25200 1491123600>-21600 1509264000>-25200",
     "1522573200>-21600 1540713600>-25200 1554627600>-21600 1572163200>-25200 1586077200>-21600",
     "1603612800>-25200 1617526800>-21600 1635667200>-25200 1648976400>-21600"]),
  ("America/Ciudad_Juarez",
    ["-25556 -1514739600>-25200 -1343149200>-21600 -1234807200>-25200 -1220461200>-21600",
     "-1207159200>-25200 -1191344400>-21600 828864000>-18000 846399600>-21600 860313600>-18000",
     "877849200>-21600 909302400>-25200 923216400>-21600 941356800>-25200 954666000>-21600",
     "972806400>-25200 989139600>-21600 1001836800>-25200 1018170000>-21600 1035705600>-25200",
     "1049619600>-21600 1067155200>-25200 1081069200>-21600 1099209600>-25200 1112518800>-21600",
     "1130659200>-25200 1143968400>-21600 1162108800>-25200 1175418000>-21600 1193558400>-25200",
     "1207472400>-21600 1225008000>-25200 1238922000>-21600 1256457600>-25200 1268557200>-21600",
     "1289116800>-25200 1300006800>-21600 1320566400>-25200 1331456400>-21600 1352016000>-25200",
     "1362906000>-21600 1383465600>-25200 1394355600>-21600 1414915200>-25200 1425805200>-21600",
     "1446364800>-25200 1457859600>-21600 1478419200>-25200 1489309200>-21600 1509868800>-25200",
     "1520758800>-21600 1541318400>-25200 1552208400>-21600 1572768000>-25200 1583658000>-21600",
     "1604217600>-25200 1615712400>-21600 1636272000>-25200 1647162000>-21600 1669788000>-25200",
     "| 2023 3/6/8/32400/-21600 11/6/1/28800/-25200"]),
  ("America/Costa_Rica",
    ["-20173 -1545071027>-21600 288770400>-18000 297234000>-21600 320220000>-18000",
     "328683600>-21600 664264800>-18000 678344400>-21600 695714400>-18000 700635600>-21600"]),
  ("America/Coyhaique",
    ["-17296 -2524504304>-16965 -1892661435>-18000 -1688410800>-16965 -1619205435>-14400",
     "-1593806400>-16965 -1335986235>-14400 -1317585600>-18000 -1304362800>-14400",
     "-1286049600>-18000 -1272826800>-14400 -1254513600>-18000 -1241290800>-14400",
     "-1222977600>-18000 -1209754800>-14400 -1191355200>-18000 -1178132400>-14400",
     "-870552000>-18000 -865278000>-14400 -718056000>-18000 -713649600>-14400 -36619200>-10800",
     "-23922000>-14400 -3355200>-10800 7527600>-14400 24465600>-10800 37767600>-14400",
     "55915200>-10800 69217200>-14400 87969600>-10800 100666800>-14400 118209600>-10800",
     "132116400>-14400 150868800>-10800 163566000>-14400 182318400>-10800 195620400>-14400",
     "213768000>-10800 227070000>-14400 245217600>-10800 258519600>-14400 277272000>-10800",
     "289969200>-14400 308721600>-10800 321418800>-14400 340171200>-10800 353473200>-14400",
     "371620800>-10800 384922800>-14400 403070400>-10800 416372400>-14400 434520000>-10800",
     "447822000>-14400 466574400>-10800 479271600>-14400 498024000>-10800 510721200>-14400",
     "529473600>-10800 545194800>-14400 560923200>-10800 574225200>-14400 592372800>-10800",
     "605674800>-14400 624427200>-10800 637124400>-14400 653457600>-10800 668574000>-14400",
     "687326400>-10800 700628400>-14400 718776000>-10800 732078000>-14400 750225600>-10800",
     "763527600>-14400 781675200>-10800 794977200>-14400 813729600>-10800 826426800>-14400",
     "845179200>-10800 859690800>-14400 876628800>-10800 889930800>-14400 906868800>-10800",
     "923194800>-14400 939528000>-10800 952830000>-14400 971582400>-10800 984279600>-14400",
     "1003032000>-10800 1015729200>-14400 1034481600>-10800 1047178800>-14400 1065931200>-10800",
     "1079233200>-14400 1097380800>-10800 1110682800>-14400 1128830400>-10800 1142132400>-14400",
     "1160884800>-10800 1173582000>-14400 1192334400>-10800 1206846000>-14400 1223784000>-10800",
     "1237086000>-14400 1255233600>-10800 1270350000>-14400 1286683200>-10800 1304823600>-14400",
     "1313899200>-10800 1335668400>-14400 1346558400>-10800 1367118000>-14400 1378612800>-10800",
     "1398567600>-14400 1410062400>-10800 1463281200>-14400 1471147200>-10800 1494730800>-14400",
     "1502596800>-10800 1526180400>-14400 1534046400>-10800 1554606000>-14400 1567915200>-10800",
     "1586055600>-14400 1599364800>-10800 1617505200>-14400 1630814400>-10800 1648954800>-14400",
     "1662868800>-10800 1680404400>-14400 1693713600>-10800 1712458800>-14400 1725768000>-10800"]),
  ("America/Cuiaba",
    ["-13460 -1767212140>-14400 -1206954000>-10800 -1191358800>-14400 -1175371200>-10800",
     "-1159822800>-14400 -633816000>-10800 -622065600>-14400 -602280000>-10800 -591829200>-14400",
     "-570744000>-10800 -560206800>-14400 -539121600>-10800 -531349200>-14400 -191361600>-10800",
     "-184194000>-14400 -155160000>-10800 -150066000>-14400 -128894400>-10800 -121122000>-14400",
     "-99950400>-10800 -89586000>-14400 -68414400>-10800 -57963600>-14400 499752000>-10800",
     "511239600>-14400 530596800>-10800 540270000>-14400 562132800>-10800 571201200>-14400",
     "592977600>-10800 602046000>-14400 624427200>-10800 634705200>-14400 656481600>-10800",
     "666759600>-14400 687931200>-10800 697604400>-14400 719985600>-10800 728449200>-14400",
     "750830400>-10800 761713200>-14400 782280000>-10800 793162800>-14400 813729600>-10800",
     "824007600>-14400 844574400>-10800 856062000>-14400 876110400>-10800 888721200>-14400",
     "908078400>-10800 919566000>-14400 938923200>-10800 951620400>-14400 970977600>-10800",
     "982465200>-14400 1003032000>-10800 1013914800>-14400 1036296000>-10800 1045364400>-14400",
     "1099368000>-10800 1108868400>-14400 1129435200>-10800 1140318000>-14400 1162699200>-10800",
     "1172372400>-14400 1192334400>-10800 1203217200>-14400 1224388800>-10800 1234666800>-14400",
     "1255838400>-10800 1266721200>-14400 1287288000>-10800 1298170800>-14400 1318737600>-10800",
     "1330225200>-14400 1350792000>-10800 1361070000>-14400 1382241600>-10800 1392519600>-14400",
     "1413691200>-10800 1424574000>-14400 1445140800>-10800 1456023600>-14400 1476590400>-10800",
     "1487473200>-14400 1508040000>-10800 1518922800>-14400 1541304000>-10800 1550372400>-14400"]),
  ("America/Danmarkshavn",
    ["-4480 -1686091520>-10800 323845200>-7200 338950800>-10800 354675600>-7200 370400400>-10800",
     "386125200>-7200 401850000>-10800 417574800>-7200 433299600>-10800 449024400>-7200",
     "465354000>-10800 481078800>-7200 496803600>-10800 512528400>-7200 528253200>-10800",
     "543978000>-7200 559702800>-10800 575427600>-7200 591152400>-10800 606877200>-7200",
     "622602000>-10800 638326800>-7200 654656400>-10800 670381200>-7200 686106000>-10800",
     "701830800>-7200 717555600>-10800 733280400>-7200 749005200>-10800 764730000>-7200",
     "780454800>-10800 796179600>-7200 811904400>-10800 820465200>0"]),
  ("America/Dawson",
    ["-33460 -2188996940>-32400 -1632056400>-28800 -1615125600>-32400 -1596978000>-28800",
     "-1583164800>-32400 -880203600>-28800 -765381600>-32400 -147884400>-25200 -131554800>-32400",
     "120646800>-28800 325677600>-25200 341398800>-28800 357127200>-25200 372848400>-28800",
     "388576800>-25200 404902800>-28800 420026400>-25200 436352400>-28800 452080800>-25200",
     "467802000>-28800 483530400>-25200 499251600>-28800 514980000>-25200 530701200>-28800",
     "544615200>-25200 562150800>-28800 576064800>-25200 594205200>-28800 607514400>-25200",
     "625654800>-28800 638964000>-25200 657104400>-28800 671018400>-25200 688554000>-28800",
     "702468000>-25200 720003600>-28800 733917600>-25200 752058000>-28800 765367200>-25200",
     "783507600>-28800 796816800>-25200 814957200>-28800 828871200>-25200 846406800>-28800",
     "860320800>-25200 877856400>-28800 891770400>-25200 909306000>-28800 923220000>-25200",
     "941360400>-28800 954669600>-25200 972810000>-28800 986119200>-25200 1004259600>-28800",
     "1018173600>-25200 1035709200>-28800 1049623200>-25200 1067158800>-28800 1081072800>-25200",
     "1099213200>-28800 1112522400>-25200 1130662800>-28800 1143972000>-25200 1162112400>-28800",
     "1173607200>-25200 1194166800>-28800 1205056800>-25200 1225616400>-28800 1236506400>-25200",
     "1257066000>-28800 1268560800>-25200 1289120400>-28800 1300010400>-25200 1320570000>-28800",
     "1331460000>-25200 1352019600>-28800 1362909600>-25200 1383469200>-28800 1394359200>-25200",
     "1414918800>-28800 1425808800>-25200 1446368400>-28800 1457863200>-25200 1478422800>-28800",
     "1489312800>-25200 1509872400>-28800 1520762400>-25200 1541322000>-28800 1552212000>-25200",
     "1572771600>-28800 1583661600>-25200"]),
  ("America/Dawson_Creek",
    ["-28856 -2713881544>-28800 -1632060000>-25200 -1615129200>-28800 -880207200>-25200",
     "-765385200>-28800 -715788000>-25200 -702486000>-28800 -684338400>-25200 -671036400>-28800",
     "-652888800>-25200 -639586800>-28800 -620834400>-25200 -608137200>-28800 -589384800>-25200",
     "-576082800>-28800 -557935200>-25200 -544633200>-28800 -526485600>-25200 -513183600>-28800",
     "-495036000>-25200 -481734000>-28800 -463586400>-25200 -450284400>-28800 -431532000>-25200",
     "-418230000>-28800 -400082400>-25200 -386780400>-28800 -368632800>-25200 -355330800>-28800",
     "-337183200>-25200 -323881200>-28800 -305733600>-25200 -292431600>-28800 -273679200>-25200",
     "-260982000>-28800 -242229600>-25200 -226508400>-28800 -210780000>-25200 -195058800>-28800",
     "-179330400>-25200 -163609200>-28800 -147880800>-25200 -131554800>-28800 -116431200>-25200",
     "-100105200>-28800 -84376800>-25200 -68655600>-28800 -52927200>-25200 -37206000>-28800",
     "-21477600>-25200 -5756400>-28800 9972000>-25200 25693200>-28800 41421600>-25200",
     "57747600>-28800 73476000>-25200"]),
  ("America/Denver",
    ["-25196 -2717643600>-25200 -1633273200>-21600 -1615132800>-25200 -1601823600>-21600",
     "-1583683200>-25200 -1570374000>-21600 -1551628800>-25200 -1538924400>-21600",
     "-1534089600>-25200 -880210800>-21600 -765388800>-25200 -147884400>-21600 -131558400>-25200",
     "-116434800>-21600 -100108800>-25200 -84380400>-21600 -68659200>-25200 -52930800>-21600",
     "-37209600>-25200 -21481200>-21600 -5760000>-25200 9968400>-21600 25689600>-25200",
     "41418000>-21600 57744000>-25200 73472400>-21600 89193600>-25200 104922000>-21600",
     "120643200>-25200 126694800>-21600 152092800>-25200 162378000>-21600 183542400>-25200",
     "199270800>-21600 215596800>-25200 230720400>-21600 247046400>-25200 262774800>-21600",
     "278496000>-25200 294224400>-21600 309945600>-25200 325674000>-21600 341395200>-25200",
     "357123600>-21600 372844800>-25200 388573200>-21600 404899200>-25200 420022800>-21600",
     "436348800>-25200 452077200>-21600 467798400>-25200 483526800>-21600 499248000>-25200",
     "514976400>-21600 530697600>-25200 544611600>-21600 562147200>-25200 576061200>-21600",
     "594201600>-25200 607510800>-21600 625651200>-25200 638960400>-21600 657100800>-25200",
     "671014800>-21600 688550400>-25200 702464400>-21600 720000000>-25200 733914000>-21600",
     "752054400>-25200 765363600>-21600 783504000>-25200 796813200>-21600 814953600>-25200",
     "828867600>-21600 846403200>-25200 860317200>-21600 877852800>-25200 891766800>-21600",
     "909302400>-25200 923216400>-21600 941356800>-25200 954666000>-21600 972806400>-25200",
     "986115600>-21600 1004256000>-25200 1018170000>-21600 1035705600>-25200 1049619600>-21600",
     "1067155200>-25200 1081069200>-21600 1099209600>-25200 1112518800>-21600 1130659200>-25200",
     "1143968400>-21600 1162108800>-25200 | 2007 3/6/8/32400/-21600 11/6/1/28800/-25200"]),
  ("America/Detroit",
    ["-19931 -2051202469>-21600 -1724083200>-18000 -880218000>-14400 -765396000>-18000",
     "-684349200>-14400 -671047200>-18000 -80506740>-14400 -68666400>-18000 -52938000>-14400",
     "-37216800>-18000 104914800>-14400 120636000>-18000 126687600>-14400 152085600>-18000",
     "167814000>-14400 183535200>-18000 199263600>-14400 215589600>-18000 230713200>-14400",
     "247039200>-18000 262767600>-14400 278488800>-18000 294217200>-14400 309938400>-18000",
     "325666800>-14400 341388000>-18000 357116400>-14400 372837600>-18000 388566000>-14400",
     "404892000>-18000 420015600>-14400 436341600>-18000 452070000>-14400 467791200>-18000",
     "483519600>-14400 499240800>-18000 514969200>-14400 530690400>-18000 544604400>-14400",
     "562140000>-18000 576054000>-14400 594194400>-18000 607503600>-14400 625644000>-18000",
     "638953200>-14400 657093600>-18000 671007600>-14400 688543200>-18000 702457200>-14400",
     "719992800>-18000 733906800>-14400 752047200>-18000 765356400>-14400 783496800>-18000",
     "796806000>-14400 814946400>-18000 828860400>-14400 846396000>-18000 860310000>-14400",
     "877845600>-18000 891759600>-14400 909295200>-18000 923209200>-14400 941349600>-18000",
     "954658800>-14400 972799200>-18000 986108400>-14400 1004248800>-18000 1018162800>-14400",
     "1035698400>-18000 1049612400>-14400 1067148000>-18000 1081062000>-14400 1099202400>-18000",
     "1112511600>-14400 1130652000>-18000 1143961200>-14400 1162101600>-18000 | 2007",
     "3/6/8/25200/-14400 11/6/1/21600/-18000"]),
  ("America/Edmonton",
    ["-27232 -1998663968>-25200 -1632063600>-21600 -1615132800>-25200 -1600614000>-21600",
     "-1596816000>-25200 -1567954800>-21600 -1551628800>-25200 -1536505200>-21600",
     "-1523203200>-25200 -1504450800>-21600 -1491753600>-25200 -1473001200>-21600",
     "-1459699200>-25200 -880210800>-21600 -765388800>-25200 -715791600>-21600 -702489600>-25200",
     "73472400>-21600 89193600>-25200 104922000>-21600 120643200>-25200 136371600>-21600",
     "152092800>-25200 167821200>-21600 183542400>-25200 199270800>-21600 215596800>-25200",
     "230720400>-21600 247046400>-25200 262774800>-21600 278496000>-25200 294224400>-21600",
     "309945600>-25200 325674000>-21600 341395200>-25200 357123600>-21600 372844800>-25200",
     "388573200>-21600 404899200>-25200 420022800>-21600 436348800>-25200 452077200>-21600",
     "467798400>-25200 483526800>-21600 499248000>-25200 514976400>-21600 530697600>-25200",
     "544611600>-21600 562147200>-25200 576061200>-21600 594201600>-25200 607510800>-21600",
     "625651200>-25200 638960400>-21600 657100800>-25200 671014800>-21600 688550400>-25200",
     "702464400>-21600 720000000>-25200 733914000>-21600 752054400>-25200 765363600>-21600",
     "783504000>-25200 796813200>-21600 814953600>-25200 828867600>-21600 846403200>-25200",
     "860317200>-21600 877852800>-25200 891766800>-21600 909302400>-25200 923216400>-21600",
     "941356800>-25200 954666000>-21600 972806400>-25200 986115600>-21600 1004256000>-25200",
     "1018170000>-21600 1035705600>-25200 1049619600>-21600 1067155200>-25200 1081069200>-21600",
     "1099209600>-25200 1112518800>-21600 1130659200>-25200 1143968400>-21600 1162108800>-25200",
     "| 2007 3/6/8/32400/-21600 11/6/1/28800/-25200"]),
  ("America/Eirunepe",
    ["-16768 -1767208832>-18000 -1206950400>-14400 -1191355200>-18000 -1175367600>-14400",
     "-1159819200>-18000 -633812400>-14400 -622062000>-18000 -602276400>-14400 -591825600>-18000",
     "-570740400>-14400 -560203200>-18000 -539118000>-14400 -531345600>-18000 -191358000>-14400",
     "-184190400>-18000 -155156400>-14400 -150062400>-18000 -128890800>-14400 -121118400>-18000",
     "-99946800>-14400 -89582400>-18000 -68410800>-14400 -57960000>-18000 499755600>-14400",
     "511243200>-18000 530600400>-14400 540273600>-18000 562136400>-14400 571204800>-18000",
     "750834000>-14400 761716800>-18000 1214283600>-14400 1384056000>-18000"]),
  ("America/El_Salvador",
    ["-21408 -1546279392>-21600 547020000>-18000 559717200>-21600 578469600>-18000",
     "591166800>-21600"]),
  ("America/Fort_Nelson",
    ["-29447 -2713880953>-28800 -1632060000>-25200 -1615129200>-28800 -880207200>-25200",
     "-765385200>-28800 -715788000>-25200 -702486000>-28800 -684338400>-25200 -671036400>-28800",
     "-652888800>-25200 -639586800>-28800 -620834400>-25200 -608137200>-28800 -589384800>-25200",
     "-576082800>-28800 -557935200>-25200 -544633200>-28800 -526485600>-25200 -513183600>-28800",
     "-495036000>-25200 -481734000>-28800 -463586400>-25200 -450284400>-28800 -431532000>-25200",
     "-418230000>-28800 -400082400>-25200 -386780400>-28800 -368632800>-25200 -355330800>-28800",
     "-337183200>-25200 -323881200>-28800 -305733600>-25200 -292431600>-28800 -273679200>-25200",
     "-260982000>-28800 -242229600>-25200 -226508400>-28800 -210780000>-25200 -195058800>-28800",
     "-179330400>-25200 -163609200>-28800 -147880800>-25200 -131554800>-28800 -116431200>-25200",
     "-100105200>-28800 -84376800>-25200 -68655600>-28800 -52927200>-25200 -37206000>-28800",
     "-21477600>-25200 -5756400>-28800 9972000>-25200 25693200>-28800 41421600>-25200",
     "57747600>-28800 73476000>-25200 89197200>-28800 104925600>-25200 120646800>-28800",
     "136375200>-25200 152096400>-28800 167824800>-25200 183546000>-28800 199274400>-25200",
     "215600400>-28800 230724000>-25200 247050000>-28800 262778400>-25200 278499600>-28800",
     "294228000>-25200 309949200>-28800 325677600>-25200 341398800>-28800 357127200>-25200",
     "372848400>-28800 388576800>-25200 404902800>-28800 420026400>-25200 436352400>-28800",
     "452080800>-25200 467802000>-28800 483530400>-25200 499251600>-28800 514980000>-25200",
     "530701200>-28800 544615200>-25200 562150800>-28800 576064800>-25200 594205200>-28800",
     "607514400>-25200 625654800>-28800 638964000>-25200 657104400>-28800 671018400>-25200",
     "688554000>-28800 702468000>-25200 720003600>-28800 733917600>-25200 752058000>-28800",
     "765367200>-25200 783507600>-28800 796816800>-25200 814957200>-28800 828871200>-25200",
     "846406800>-28800 860320800>-25200 877856400>-28800 891770400>-25200 909306000>-28800",
     "923220000>-25200 941360400>-28800 954669600>-25200 972810000>-28800 986119200>-25200",
     "1004259600>-28800 1018173600>-25200 1035709200>-28800 1049623200>-25200 1067158800>-28800",
     "1081072800>-25200 1099213200>-28800 1112522400>-25200 1130662800>-28800 1143972000>-25200",
     "1162112400>-28800 1173607200>-25200 1194166800>-28800 1205056800>-25200 1225616400>-28800",
     "1236506400>-25200 1257066000>-28800 1268560800>-25200 1289120400>-28800 1300010400>-25200",
     "1320570000>-28800 1331460000>-25200 1352019600>-28800 1362909600>-25200 1383469200>-28800",
     "1394359200>-25200 1414918800>-28800 1425808800>-25200"]),
  ("America/Fortaleza",
    ["-9240 -1767216360>-10800 -1206957600>-7200 -1191362400>-10800 -1175374800>-7200",
     "-1159826400>-10800 -633819600>-7200 -622069200>-10800 -602283600>-7200 -591832800>-10800",
     "-570747600>-7200 -560210400>-10800 -539125200>-7200 -531352800>-10800 -191365200>-7200",
     "-184197600>-10800 -155163600>-7200 -150069600>-10800 -128898000>-7200 -121125600>-10800",
     "-99954000>-7200 -89589600>-10800 -68418000>-7200 -57967200>-10800 499748400>-7200",
     "511236000>-10800 530593200>-7200 540266400>-10800 562129200>-7200 571197600>-10800",
     "592974000>-7200 602042400>-10800 624423600>-7200 634701600>-10800 938919600>-7200",
     "951616800>-10800 970974000>-7200 972180000>-10800 1003028400>-7200 1013911200>-10800"]),
  ("America/Glace_Bay",
    ["-14388 -2131646412>-14400 -1632074400>-10800 -1615143600>-14400 -880221600>-10800",
     "-765399600>-14400 -526500000>-10800 -513198000>-14400 73461600>-10800 89182800>-14400",
     "104911200>-10800 120632400>-14400 136360800>-10800 152082000>-14400 167810400>-10800",
     "183531600>-14400 199260000>-10800 215586000>-14400 230709600>-10800 247035600>-14400",
     "262764000>-10800 278485200>-14400 294213600>-10800 309934800>-14400 325663200>-10800",
     "341384400>-14400 357112800>-10800 372834000>-14400 388562400>-10800 404888400>-14400",
     "420012000>-10800 436338000>-14400 452066400>-10800 467787600>-14400 483516000>-10800",
     "499237200>-14400 514965600>-10800 530686800>-14400 544600800>-10800 562136400>-14400",
     "576050400>-10800 594190800>-14400 607500000>-10800 625640400>-14400 638949600>-10800",
     "657090000>-14400 671004000>-10800 688539600>-14400 702453600>-10800 719989200>-14400",
     "733903200>-10800 752043600>-14400 765352800>-10800 783493200>-14400 796802400>-10800",
     "814942800>-14400 828856800>-10800 846392400>-14400 860306400>-10800 877842000>-14400",
     "891756000>-10800 909291600>-14400 923205600>-10800 941346000>-14400 954655200>-10800",
     "972795600>-14400 986104800>-10800 1004245200>-14400 1018159200>-10800 1035694800>-14400",
     "1049608800>-10800 1067144400>-14400 1081058400>-10800 1099198800>-14400 1112508000>-10800",
     "1130648400>-14400 1143957600>-10800 1162098000>-14400 | 2007 3/6/8/21600/-10800",
     "11/6/1/18000/-14400"]),
  ("America/Goose_Bay",
    ["-14500 -2713895900>-12652 -1632076148>-9052 -1615145348>-12652 -1096921748>-12600",
     "-1061670600>-9000 -1048973400>-12600 -1030221000>-9000 -1017523800>-12600 -998771400>-9000",
     "-986074200>-12600 -966717000>-9000 -954624600>-12600 -935267400>-9000 -922570200>-12600",
     "-903817800>-9000 -891120600>-12600 -872368200>-9000 -765401400>-12600 -746044200>-9000",
     "-733347000>-12600 -714594600>-9000 -701897400>-12600 -683145000>-9000 -670447800>-12600",
     "-651695400>-9000 -638998200>-12600 -619641000>-9000 -606943800>-12600 -589401000>-9000",
     "-576099000>-12600 -557951400>-9000 -544649400>-12600 -526501800>-9000 -513199800>-12600",
     "-495052200>-9000 -481750200>-12600 -463602600>-9000 -450300600>-12600 -431548200>-9000",
     "-418246200>-12600 -400098600>-9000 -386796600>-12600 -368649000>-9000 -355347000>-12600",
     "-337199400>-9000 -323897400>-12600 -305749800>-9000 -289423800>-12600 -273695400>-9000",
     "-257974200>-12600 -242245800>-9000 -226524600>-12600 -210796200>-9000 -195075000>-12600",
     "-179346600>-9000 -163625400>-12600 -147897000>-9000 -131571000>-12600 -119903400>-14400",
     "-116445600>-10800 -100119600>-14400 -84391200>-10800 -68670000>-14400 -52941600>-10800",
     "-37220400>-14400 -21492000>-10800 -5770800>-14400 9957600>-10800 25678800>-14400",
     "41407200>-10800 57733200>-14400 73461600>-10800 89182800>-14400 104911200>-10800",
     "120632400>-14400 136360800>-10800 152082000>-14400 167810400>-10800 183531600>-14400",
     "199260000>-10800 215586000>-14400 230709600>-10800 247035600>-14400 262764000>-10800",
     "278485200>-14400 294213600>-10800 309934800>-14400 325663200>-10800 341384400>-14400",
     "357112800>-10800 372834000>-14400 388562400>-10800 404888400>-14400 420012000>-10800",
     "436338000>-14400 452066400>-10800 467787600>-14400 483516000>-10800 499237200>-14400",
     "514965600>-10800 530686800>-14400 544593660>-10800 562129260>-14400 576043260>-7200",
     "594180060>-14400 607492860>-10800 625633260>-14400 638942460>-10800 657082860>-14400",
     "670996860>-10800 688532460>-14400 702446460>-10800 719982060>-14400 733896060>-10800",
     "752036460>-14400 765345660>-10800 783486060>-14400 796795260>-10800 814935660>-14400",
     "828849660>-10800 846385260>-14400 860299260>-10800 877834860>-14400 891748860>-10800",
     "909284460>-14400 923198460>-10800 941338860>-14400 954648060>-10800 972788460>-14400",
     "986097660>-10800 1004238060>-14400 1018152060>-10800 1035687660>-14400 1049601660>-10800",
     "1067137260>-14400 1081051260>-10800 1099191660>-14400 1112500860>-10800 1130641260>-14400",
     "1143950460>-10800 1162090860>-14400 1173585660>-10800 1194145260>-14400 1205035260>-10800",
     "1225594860>-14400 1236484860>-10800 1257044460>-14400 1268539260>-10800 1289098860>-14400",
     "1299988860>-10800 1320555600>-14400 | 2012 3/6/8/21600/-10800 11/6/1/18000/-14400"]),
  ("America/Grand_Turk",
    ["-17072 -2524504528>-18430 -1827687170>-18000 294217200>-14400 309938400>-18000",
     "325666800>-14400 341388000>-18000 357116400>-14400 372837600>-18000 388566000>-14400",
     "404892000>-18000 420015600>-14400 436341600>-18000 452070000>-14400 467791200>-18000",
     "483519600>-14400 499240800>-18000 514969200>-14400 530690400>-18000 544604400>-14400",
     "562140000>-18000 576054000>-14400 594194400>-18000 607503600>-14400 625644000>-18000",
     "638953200>-14400 657093600>-18000 671007600>-14400 688543200>-18000 702457200>-14400",
     "719992800>-18000 733906800>-14400 752047200>-18000 765356400>-14400 783496800>-18000",
     "796806000>-14400 814946400>-18000 828860400>-14400 846396000>-18000 860310000>-14400",
     "877845600>-18000 891759600>-14400 909295200>-18000 923209200>-14400 941349600>-18000",
     "954658800>-14400 972799200>-18000 986108400>-14400 1004248800>-18000 1018162800>-14400",
     "1035698400>-18000 1049612400>-14400 1067148000>-18000 1081062000>-14400 1099202400>-18000",
     "1112511600>-14400 1130652000>-18000 1143961200>-14400 1162101600>-18000 1173596400>-14400",
     "1194156000>-18000 1205046000>-14400 1225605600>-18000 1236495600>-14400 1257055200>-18000",
     "1268550000>-14400 1289109600>-18000 1299999600>-14400 1320559200>-18000 1331449200>-14400",
     "1352008800>-18000 1362898800>-14400 1383458400>-18000 1394348400>-14400 1414908000>-18000",
     "1425798000>-14400 1541311200>-18000 | 2019 3/6/8/25200/-14400 11/6/1/21600/-18000"]),
  ("America/Guatemala",
    ["-21724 -1617040676>-21600 123055200>-18000 130914000>-21600 422344800>-18000",
     "433054800>-21600 669708000>-18000 684219600>-21600 1146376800>-18000 1159678800>-21600"]),
  ("America/Guayaquil",
    ["-19160 -2524502440>-18840 -1230749160>-18000 722926800>-14400 728884800>-18000"]),
  ("America/Guyana",
    ["-13959 -1843589241>-14400 -1730577600>-13500 176096700>-10800 701841600>-14400"]),
  ("America/Halifax",
    ["-15264 -2131645536>-14400 -1696276800>-10800 -1680469200>-14400 -1632074400>-10800",
     "-1615143600>-14400 -1566763200>-10800 -1557090000>-14400 -1535486400>-10800",
     "-1524949200>-14400 -1504468800>-10800 -1493413200>-14400 -1472414400>-10800",
     "-1461963600>-14400 -1440964800>-10800 -1429390800>-14400 -1409515200>-10800",
     "-1396731600>-14400 -1376856000>-10800 -1366491600>-14400 -1346616000>-10800",
     "-1333832400>-14400 -1313956800>-10800 -1303678800>-14400 -1282507200>-10800",
     "-1272661200>-14400 -1251057600>-10800 -1240088400>-14400 -1219608000>-10800",
     "-1207429200>-14400 -1188763200>-10800 -1175979600>-14400 -1157313600>-10800",
     "-1143925200>-14400 -1124049600>-10800 -1113771600>-14400 -1091390400>-10800",
     "-1081026000>-14400 -1059854400>-10800 -1050786000>-14400 -1030910400>-10800",
     "-1018126800>-14400 -999460800>-10800 -986677200>-14400 -965592000>-10800 -955227600>-14400",
     "-935956800>-10800 -923173200>-14400 -904507200>-10800 -891723600>-14400 -880221600>-10800",
     "-765399600>-14400 -747252000>-10800 -733950000>-14400 -715802400>-10800 -702500400>-14400",
     "-684352800>-10800 -671050800>-14400 -652903200>-10800 -639601200>-14400 -589399200>-10800",
     "-576097200>-14400 -557949600>-10800 -544647600>-14400 -526500000>-10800 -513198000>-14400",
     "-495050400>-10800 -481748400>-14400 -431546400>-10800 -418244400>-14400 -400096800>-10800",
     "-386794800>-14400 -368647200>-10800 -355345200>-14400 -337197600>-10800 -323895600>-14400",
     "-242244000>-10800 -226522800>-14400 -210794400>-10800 -195073200>-14400 -179344800>-10800",
     "-163623600>-14400 -147895200>-10800 -131569200>-14400 -116445600>-10800 -100119600>-14400",
     "-84391200>-10800 -68670000>-14400 -52941600>-10800 -37220400>-14400 -21492000>-10800",
     "-5770800>-14400 9957600>-10800 25678800>-14400 41407200>-10800 57733200>-14400",
     "73461600>-10800 89182800>-14400 104911200>-10800 120632400>-14400 136360800>-10800",
     "152082000>-14400 167810400>-10800 183531600>-14400 199260000>-10800 215586000>-14400",
     "230709600>-10800 247035600>-14400 262764000>-10800 278485200>-14400 294213600>-10800",
     "309934800>-14400 325663200>-10800 341384400>-14400 357112800>-10800 372834000>-14400",
     "388562400>-10800 404888400>-14400 420012000>-10800 436338000>-14400 452066400>-10800",
     "467787600>-14400 483516000>-10800 499237200>-14400 514965600>-10800 530686800>-14400",
     "544600800>-10800 562136400>-14400 576050400>-10800 594190800>-14400 607500000>-10800",
     "625640400>-14400 638949600>-10800 657090000>-14400 671004000>-10800 688539600>-14400",
     "702453600>-10800 719989200>-14400 733903200>-10800 752043600>-14400 765352800>-10800",
     "783493200>-14400 796802400>-10800 814942800>-14400 828856800>-10800 846392400>-14400",
     "860306400>-10800 877842000>-14400 891756000>-10800 909291600>-14400 923205600>-10800",
     "941346000>-14400 954655200>-10800 972795600>-14400 986104800>-10800 1004245200>-14400",
     "1018159200>-10800 1035694800>-14400 1049608800>-10800 1067144400>-14400 1081058400>-10800",
     "1099198800>-14400 1112508000>-10800 1130648400>-14400 1143957600>-10800 1162098000>-14400",
     "| 2007 3/6/8/21600/-10800 11/6/1/18000/-14400"]),
  ("America/Havana",
    ["-19768 -2524501832>-19776 -1402813824>-18000 -1311534000>-14400 -1300996800>-18000",
     "-933534000>-14400 -925675200>-18000 -902084400>-14400 -893620800>-18000 -870030000>-14400",
     "-862171200>-18000 -775681200>-14400 -767822400>-18000 -744231600>-14400 -736372800>-18000",
     "-144702000>-14400 -134251200>-18000 -113425200>-14400 -102542400>-18000 -86295600>-14400",
     "-72907200>-18000 -54154800>-14400 -41457600>-18000 -21495600>-14400 -5774400>-18000",
     "9954000>-14400 25675200>-18000 41403600>-14400 57729600>-18000 73458000>-14400",
     "87364800>-18000 104907600>-14400 118900800>-18000 136357200>-14400 150436800>-18000",
     "167806800>-14400 183528000>-18000 199256400>-14400 215582400>-18000 230706000>-14400",
     "247032000>-18000 263365200>-14400 276667200>-18000 290581200>-14400 308721600>-18000",
     "322030800>-14400 340171200>-18000 358318800>-14400 371620800>-18000 389768400>-14400",
     "403070400>-18000 421218000>-14400 434520000>-18000 452667600>-14400 466574400>-18000",
     "484117200>-14400 498024000>-18000 511333200>-14400 529473600>-18000 542782800>-14400",
     "560923200>-18000 574837200>-14400 592372800>-18000 606286800>-14400 623822400>-18000",
     "638946000>-14400 655876800>-18000 671000400>-14400 687330000>-18000 702450000>-14400",
     "718779600>-18000 733899600>-14400 750229200>-18000 765349200>-14400 781678800>-18000",
     "796798800>-14400 813128400>-18000 828853200>-14400 844578000>-18000 860302800>-14400",
     "876632400>-18000 891147600>-14400 909291600>-18000 922597200>-14400 941346000>-18000",
     "954651600>-14400 972795600>-18000 986101200>-14400 1004245200>-18000 1018155600>-14400",
     "1035694800>-18000 1049605200>-14400 1067144400>-18000 1080450000>-14400 1162098000>-18000",
     "1173589200>-14400 1193547600>-18000 1205643600>-14400 1224997200>-18000 1236488400>-14400",
     "1256446800>-18000 1268542800>-14400 1288501200>-18000 1300597200>-14400 1321160400>-18000",
     "1333256400>-14400 1352005200>-18000 | 2013 3/6/8/18000/-14400 11/6/1/18000/-18000"]),
  ("America/Hermosillo",
    ["-26632 -1514739600>-25200 -1343149200>-21600 -1234807200>-25200 -1220461200>-21600",
     "-1207159200>-25200 -1191344400>-21600 -873828000>-25200 828867600>-21600 846403200>-25200",
     "860317200>-21600 877852800>-25200 891766800>-21600 909302400>-25200"]),
  ("America/Indiana/Indianapolis",
    ["-20678 -2717647200>-21600 -1633276800>-18000 -1615136400>-21600 -1601827200>-18000",
     "-1583686800>-21600 -900259200>-18000 -891795600>-21600 -880214400>-18000 -765392400>-21600",
     "-747244800>-18000 -733942800>-21600 -715795200>-18000 -702493200>-21600 -684345600>-18000",
     "-671043600>-21600 -652896000>-18000 -639594000>-21600 -620841600>-18000 -608144400>-21600",
     "-589392000>-18000 -576090000>-21600 -557942400>-18000 -544640400>-21600 -526492800>-18000",
     "-513190800>-21600 -495043200>-18000 -481741200>-21600 -463593600>-18000 -386787600>-21600",
     "-368640000>-18000 -21488400>-14400 -5767200>-18000 9961200>-14400 25682400>-18000",
     "1143961200>-14400 1162101600>-18000 | 2007 3/6/8/25200/-14400 11/6/1/21600/-18000"]),
  ("America/Indiana/Knox",
    ["-20790 -2717647200>-21600 -1633276800>-18000 -1615136400>-21600 -1601827200>-18000",
     "-1583686800>-21600 -880214400>-18000 -765392400>-21600 -715795200>-18000 -702493200>-21600",
     "-684345600>-18000 -671043600>-21600 -652896000>-18000 -639594000>-21600 -620841600>-18000",
     "-608144400>-21600 -589392000>-18000 -576090000>-21600 -557942400>-18000 -544640400>-21600",
     "-526492800>-18000 -513190800>-21600 -495043200>-18000 -481741200>-21600 -463593600>-18000",
     "-447267600>-21600 -431539200>-18000 -415818000>-21600 -400089600>-18000 -386787600>-21600",
     "-368640000>-18000 -355338000>-21600 -337190400>-18000 -321469200>-21600 -305740800>-18000",
     "-289414800>-21600 -273686400>-18000 -257965200>-21600 -242236800>-18000 -195066000>-21600",
     "-84384000>-18000 -68662800>-21600 -52934400>-18000 -37213200>-21600 -21484800>-18000",
     "-5763600>-21600 9964800>-18000 25686000>-21600 41414400>-18000 57740400>-21600",
     "73468800>-18000 89190000>-21600 104918400>-18000 120639600>-21600 126691200>-18000",
     "152089200>-21600 162374400>-18000 183538800>-21600 199267200>-18000 215593200>-21600",
     "230716800>-18000 247042800>-21600 262771200>-18000 278492400>-21600 294220800>-18000",
     "309942000>-21600 325670400>-18000 341391600>-21600 357120000>-18000 372841200>-21600",
     "388569600>-18000 404895600>-21600 420019200>-18000 436345200>-21600 452073600>-18000",
     "467794800>-21600 483523200>-18000 499244400>-21600 514972800>-18000 530694000>-21600",
     "544608000>-18000 562143600>-21600 576057600>-18000 594198000>-21600 607507200>-18000",
     "625647600>-21600 638956800>-18000 657097200>-21600 671011200>-18000 1162105200>-21600 |",
     "2007 3/6/8/28800/-18000 11/6/1/25200/-21600"]),
  ("America/Indiana/Marengo",
    ["-20723 -2717647200>-21600 -1633276800>-18000 -1615136400>-21600 -1601827200>-18000",
     "-1583686800>-21600 -880214400>-18000 -765392400>-21600 -589392000>-18000 -576090000>-21600",
     "-495043200>-18000 -481741200>-21600 -463593600>-18000 -450291600>-21600 -431539200>-18000",
     "-418237200>-21600 -400089600>-18000 -386787600>-21600 -368640000>-18000 -355338000>-21600",
     "-337190400>-18000 -323888400>-21600 -305740800>-18000 -292438800>-21600 -273686400>-18000",
     "-21488400>-14400 -5767200>-18000 9961200>-14400 25682400>-18000 41410800>-14400",
     "57736800>-18000 73465200>-14400 89186400>-18000 104914800>-14400 120636000>-18000",
     "162370800>-14400 183535200>-18000 1143961200>-14400 1162101600>-18000 | 2007",
     "3/6/8/25200/-14400 11/6/1/21600/-18000"]),
  ("America/Indiana/Petersburg",
    ["-20947 -2717647200>-21600 -1633276800>-18000 -1615136400>-21600 -1601827200>-18000",
     "-1583686800>-21600 -880214400>-18000 -765392400>-21600 -462996000>-18000 -450291600>-21600",
     "-431539200>-18000 -418237200>-21600 -400089600>-18000 -386787600>-21600 -368640000>-18000",
     "-355338000>-21600 -337190400>-18000 -323888400>-21600 -305740800>-18000 -292438800>-21600",
     "-273686400>-18000 -257965200>-21600 -242236800>-18000 -226515600>-21600 -210787200>-18000",
     "-195066000>-21600 -179337600>-18000 -163616400>-21600 -147888000>-18000 -100112400>-21600",
     "-84384000>-18000 -68662800>-21600 -52934400>-18000 -37213200>-21600 -21484800>-18000",
     "-5763600>-21600 9964800>-18000 25686000>-21600 41414400>-18000 57740400>-21600",
     "73468800>-18000 89190000>-21600 104918400>-18000 120639600>-21600 126691200>-18000",
     "152089200>-21600 162374400>-18000 183538800>-21600 199267200>-18000 215593200>-21600",
     "230716800>-18000 1162105200>-21600 1173600000>-18000 | 2008 3/6/8/25200/-14400",
     "11/6/1/21600/-18000"]),
  ("America/Indiana/Tell_City",
    ["-20823 -2717647200>-21600 -1633276800>-18000 -1615136400>-21600 -1601827200>-18000",
     "-1583686800>-21600 -880214400>-18000 -765392400>-21600 -462996000>-18000 -450291600>-21600",
     "-431539200>-18000 -418237200>-21600 -400089600>-18000 -386787600>-21600 -368640000>-18000",
     "-355338000>-21600 -337190400>-18000 -323888400>-21600 -305740800>-18000 -292438800>-21600",
     "-273686400>-18000 -257965200>-21600 -242236800>-18000 -226515600>-21600 -210787200>-18000",
     "-195066000>-21600 -179337600>-18000 -68662800>-21600 -52934400>-18000 -37213200>-21600",
     "-21484800>-14400 -5767200>-18000 9961200>-14400 25682400>-18000 1162105200>-21600 | 2007",
     "3/6/8/28800/-18000 11/6/1/25200/-21600"]),
  ("America/Indiana/Vevay",
    ["-20416 -2717647200>-21600 -1633276800>-18000 -1615136400>-21600 -1601827200>-18000",
     "-1583686800>-21600 -880214400>-18000 -765392400>-21600 -495043200>-18000 -21488400>-14400",
     "-5767200>-18000 9961200>-14400 25682400>-18000 41410800>-14400 57736800>-18000",
     "73465200>-14400 89186400>-18000 1143961200>-14400 1162101600>-18000 | 2007",
     "3/6/8/25200/-14400 11/6/1/21600/-18000"]),
  ("America/Indiana/Vincennes",
    ["-21007 -2717647200>-21600 -1633276800>-18000 -1615136400>-21600 -1601827200>-18000",
     "-1583686800>-21600 -880214400>-18000 -765392400>-21600 -747244800>-18000 -733942800>-21600",
     "-526492800>-18000 -513190800>-21600 -495043200>-18000 -481741200>-21600 -462996000>-18000",
     "-450291600>-21600 -431539200>-18000 -418237200>-21600 -400089600>-18000 -386787600>-21600",
     "-368640000>-18000 -355338000>-21600 -337190400>-18000 -323888400>-21600 -305740800>-18000",
     "-289414800>-21600 -273686400>-18000 -260989200>-21600 -242236800>-18000 -226515600>-21600",
     "-210787200>-18000 -195066000>-21600 -179337600>-18000 -21488400>-14400 -5767200>-18000",
     "9961200>-14400 25682400>-18000 1162105200>-21600 1173600000>-18000 | 2008",
     "3/6/8/25200/-14400 11/6/1/21600/-18000"]),
  ("America/Indiana/Winamac",
    ["-20785 -2717647200>-21600 -1633276800>-18000 -1615136400>-21600 -1601827200>-18000",
     "-1583686800>-21600 -880214400>-18000 -765392400>-21600 -747244800>-18000 -733942800>-21600",
     "-715795200>-18000 -702493200>-21600 -684345600>-18000 -671043600>-21600 -652896000>-18000",
     "-639594000>-21600 -620841600>-18000 -608144400>-21600 -589392000>-18000 -576090000>-21600",
     "-557942400>-18000 -544640400>-21600 -526492800>-18000 -513190800>-21600 -495043200>-18000",
     "-481741200>-21600 -463593600>-18000 -447267600>-21600 -431539200>-18000 -415818000>-21600",
     "-400089600>-18000 -386787600>-21600 -368640000>-18000 -355338000>-21600 -337190400>-18000",
     "-323888400>-21600 -305740800>-18000 -292438800>-21600 -273686400>-18000 -21488400>-14400",
     "-5767200>-18000 9961200>-14400 25682400>-18000 1162105200>-21600 1173600000>-14400",
     "1194156000>-18000 | 2008 3/6/8/25200/-14400 11/6/1/21600/-18000"]),
  ("America/Inuvik",
    ["0 -536457600>-28800 73476000>-25200 89197200>-28800 104925600>-25200 120646800>-28800",
     "136375200>-25200 152096400>-28800 167824800>-25200 183546000>-28800 199274400>-25200",
     "215600400>-28800 230724000>-25200 247050000>-28800 262778400>-25200 278499600>-28800",
     "294228000>-21600 309945600>-25200 325674000>-21600 341395200>-25200 357123600>-21600",
     "372844800>-25200 388573200>-21600 404899200>-25200 420022800>-21600 436348800>-25200",
     "452077200>-21600 467798400>-25200 483526800>-21600 499248000>-25200 514976400>-21600",
     "530697600>-25200 544611600>-21600 562147200>-25200 576061200>-21600 594201600>-25200",
     "607510800>-21600 625651200>-25200 638960400>-21600 657100800>-25200 671014800>-21600",
     "688550400>-25200 702464400>-21600 720000000>-25200 733914000>-21600 752054400>-25200",
     "765363600>-21600 783504000>-25200 796813200>-21600 814953600>-25200 828867600>-21600",
     "846403200>-25200 860317200>-21600 877852800>-25200 891766800>-21600 909302400>-25200",
     "923216400>-21600 941356800>-25200 954666000>-21600 972806400>-25200 986115600>-21600",
     "1004256000>-25200 1018170000>-21600 1035705600>-25200 1049619600>-21600 1067155200>-25200",
     "1081069200>-21600 1099209600>-25200 1112518800>-21600 1130659200>-25200 1143968400>-21600",
     "1162108800>-25200 | 2007 3/6/8/32400/-21600 11/6/1/28800/-25200"]),
  ("America/Iqaluit",
    ["0 -865296000>-14400 -765396000>-18000 73465200>-14400 89186400>-18000 104914800>-14400",
     "120636000>-18000 136364400>-14400 152085600>-18000 167814000>-14400 183535200>-18000",
     "199263600>-14400 215589600>-18000 230713200>-14400 247039200>-18000 262767600>-14400",
     "278488800>-18000 294217200>-14400 309938400>-18000 325666800>-14400 341388000>-18000",
     "357116400>-14400 372837600>-18000 388566000>-14400 404892000>-18000 420015600>-14400",
     "436341600>-18000 452070000>-14400 467791200>-18000 483519600>-14400 499240800>-18000",
     "514969200>-14400 530690400>-18000 544604400>-14400 562140000>-18000 576054000>-14400",
     "594194400>-18000 607503600>-14400 625644000>-18000 638953200>-14400 657093600>-18000",
     "671007600>-14400 688543200>-18000 702457200>-14400 719992800>-18000 733906800>-14400",
     "752047200>-18000 765356400>-14400 783496800>-18000 796806000>-14400 814946400>-18000",
     "828860400>-14400 846396000>-18000 860310000>-14400 877845600>-18000 891759600>-14400",
     "909295200>-18000 923209200>-14400 941349600>-21600 954662400>-18000 986108400>-14400",
     "1004248800>-18000 1018162800>-14400 1035698400>-18000 1049612400>-14400 1067148000>-18000",
     "1081062000>-14400 1099202400>-18000 1112511600>-14400 1130652000>-18000 1143961200>-14400",
     "1162101600>-18000 | 2007 3/6/8/25200/-14400 11/6/1/21600/-18000"])]

end FlowScheduler.Zone.Table
