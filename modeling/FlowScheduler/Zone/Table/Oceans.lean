/-!
Zone histories of Antarctica, Australia, the Atlantic and the Indian Ocean; see `FlowScheduler.Zone.Database` for the notation.
-/

namespace FlowScheduler.Zone.Table

/-- Names with histories. -/
def oceans : List (String × List String) := [
  ("Antarctica/Casey",
    ["0 -31536000>28800 1255802400>39600 1267714800>28800 1319738400>39600 1329843600>28800",
     "1477065600>39600 1520701200>28800 1538856000>39600 1552752000>28800 1570129200>39600",
     "1583596800>28800 1601740860>39600 1615640400>28800 1633190460>39600 1647090000>28800",
     "1664640060>39600 1678291200>28800"]),
  ("Antarctica/Davis",
    ["0 -409190400>25200 -163062000>0 -28857600>25200 1255806000>18000 1268251200>25200",
     "1319742000>18000 1329854400>25200"]),
  ("Antarctica/Macquarie",
    ["0 -2214259200>36000 -1680508800>39600 -1665388800>36000 -1601719200>0 -687052800>36000",
     "-71136000>39600 -55411200>36000 -37267200>39600 -25776000>36000 -5817600>39600",
     "5673600>36000 25632000>39600 37728000>36000 57686400>39600 67968000>36000 89136000>39600",
     "100022400>36000 120585600>39600 131472000>36000 152035200>39600 162921600>36000",
     "183484800>39600 194976000>36000 215539200>39600 226425600>36000 246988800>39600",
     "257875200>36000 278438400>39600 289324800>36000 309888000>39600 320774400>36000",
     "341337600>39600 352224000>36000 372787200>39600 386092800>36000 404841600>39600",
     "417542400>36000 436291200>39600 447177600>36000 467740800>39600 478627200>36000",
     "499190400>39600 510076800>36000 530035200>39600 542736000>36000 562089600>39600",
     "574790400>36000 594144000>39600 606240000>36000 625593600>39600 637689600>36000",
     "657043200>39600 670348800>36000 686678400>39600 701798400>36000 718128000>39600",
     "733248000>36000 749577600>39600 764697600>36000 781027200>39600 796147200>36000",
     "812476800>39600 828201600>36000 844531200>39600 859651200>36000 875980800>39600",
     "891100800>36000 907430400>39600 922550400>36000 938880000>39600 954000000>36000",
     "967305600>39600 985449600>36000 1002384000>39600 1017504000>36000 1033833600>39600",
     "1048953600>36000 1065283200>39600 1080403200>36000 1096732800>39600 1111852800>36000",
     "1128182400>39600 1143907200>36000 1159632000>39600 1174752000>36000 1191686400>39600",
     "1207411200>36000 1223136000>39600 1238860800>36000 1254585600>39600 | 2011",
     "4/6/1/-28800/36000 10/6/1/-28800/39600"]),
  ("Antarctica/Mawson",
    ["0 -501206400>21600 1255809600>18000"]),
  ("Antarctica/Palmer",
    ["0 -157766400>-10800 -152658000>-14400 -132955200>-10800 -121122000>-14400",
     "-101419200>-10800 -86821200>-14400 -71092800>-10800 -54766800>-14400 -39038400>-10800",
     "-23317200>-14400 -7588800>-10800 128142000>-7200 136605600>-10800 389070000>-14400",
     "403070400>-10800 416372400>-14400 434520000>-10800 447822000>-14400 466574400>-10800",
     "479271600>-14400 498024000>-10800 510721200>-14400 529473600>-10800 545194800>-14400",
     "560923200>-10800 574225200>-14400 592372800>-10800 605674800>-14400 624427200>-10800",
     "637124400>-14400 653457600>-10800 668574000>-14400 687326400>-10800 700628400>-14400",
     "718776000>-10800 732078000>-14400 750225600>-10800 763527600>-14400 781675200>-10800",
     "794977200>-14400 813729600>-10800 826426800>-14400 845179200>-10800 859690800>-14400",
     "876628800>-10800 889930800>-14400 906868800>-10800 923194800>-14400 939528000>-10800",
     "952830000>-14400 971582400>-10800 984279600>-14400 1003032000>-10800 1015729200>-14400",
     "1034481600>-10800 1047178800>-14400 1065931200>-10800 1079233200>-14400 1097380800>-10800",
     "1110682800>-14400 1128830400>-10800 1142132400>-14400 1160884800>-10800 1173582000>-14400",
     "1192334400>-10800 1206846000>-14400 1223784000>-10800 1237086000>-14400 1255233600>-10800",
     "1270350000>-14400 1286683200>-10800 1304823600>-14400 1313899200>-10800 1335668400>-14400",
     "1346558400>-10800 1367118000>-14400 1378612800>-10800 1398567600>-14400 1410062400>-10800",
     "1463281200>-14400 1471147200>-10800"]),
  ("Antarctica/Rothera",
    ["0 218246400>-10800"]),
  ("Antarctica/Troll",
    ["0 | 2005 3/6/25/3600/7200 10/6/25/3600/0"]),
  ("Antarctica/Vostok",
    ["0 -380073600>25200 760035600>0 783648000>25200 1702839600>18000"]),
  ("Atlantic/Azores",
    ["-6160 -2713904240>-6872 -1830376800>-7200 -1689548400>-3600 -1677794400>-7200",
     "-1667426400>-3600 -1647730800>-7200 -1635890400>-3600 -1616194800>-7200 -1604354400>-3600",
     "-1584658800>-7200 -1572732000>-3600 -1553036400>-7200 -1541196000>-3600 -1521500400>-7200",
     "-1442444400>-3600 -1427670000>-7200 -1379286000>-3600 -1364770800>-7200 -1348441200>-3600",
     "-1333321200>-7200 -1316386800>-3600 -1301266800>-7200 -1284332400>-3600 -1269817200>-7200",
     "-1221433200>-3600 -1206918000>-7200 -1191193200>-3600 -1175468400>-7200 -1127689200>-3600",
     "-1111964400>-7200 -1096844400>-3600 -1080514800>-7200 -1063580400>-3600 -1049065200>-7200",
     "-1033340400>-3600 -1017615600>-7200 -1002495600>-3600 -986166000>-7200 -969231600>-3600",
     "-950482800>-7200 -942015600>-3600 -922489200>-7200 -906937200>-3600 -891126000>-7200",
     "-877302000>-3600 -873676800>0 -864000000>-3600 -857948400>-7200 -845852400>-3600",
     "-842832000>0 -831340800>-3600 -825894000>-7200 -814402800>-3600 -810777600>0",
     "-799891200>-3600 -794444400>-7200 -782953200>-3600 -779328000>0 -768441600>-3600",
     "-762994800>-7200 -749084400>-3600 -733359600>-7200 -717624000>-3600 -701899200>-7200",
     "-686174400>-3600 -670449600>-7200 -654724800>-3600 -639000000>-7200 -623275200>-3600",
     "-607550400>-7200 -591825600>-3600 -575496000>-7200 -559771200>-3600 -544046400>-7200",
     "-528321600>-3600 -512596800>-7200 -496872000>-3600 -481147200>-7200 -465422400>-3600",
     "-449697600>-7200 -433972800>-3600 -417643200>-7200 -401918400>-3600 -386193600>-7200",
     "-370468800>-3600 -354744000>-7200 -339019200>-3600 -323294400>-7200 -307569600>-3600",
     "-291844800>-7200 -276120000>-3600 -260395200>-7200 -244670400>-3600 -228340800>-7200",
     "-212616000>-3600 -196891200>-7200 -181166400>-3600 -165441600>-7200 -149716800>-3600",
     "-133992000>-7200 -118267200>-3600 386125200>0 401850000>-3600 417574800>0 433299600>-3600",
     "449024400>0 465354000>-3600 481078800>0 496803600>-3600 512528400>0 528253200>-3600",
     "543978000>0 559702800>-3600 575427600>0 591152400>-3600 606877200>0 622602000>-3600",
     "638326800>0 654656400>-3600 670381200>0 686106000>-3600 701830800>0 717555600>-3600",
     "725421600>0 733280400>3600 740278800>0 749005200>-3600 764730000>0 780454800>-3600",
     "796179600>0 811904400>-3600 | 1996 3/6/25/3600/0 10/6/25/3600/-3600"]),
  ("Atlantic/Bermuda",
    ["-15558 -1664307642>-11958 -1648932042>-15558 -1632080442>-11958 -1618692042>-15558",
     "-1262281242>-14400 -882727200>-10800 -858538800>-14400 -845229600>-10800 -825879600>-14400",
     "-814384800>-10800 -793825200>-14400 -782935200>-10800 -762375600>-14400 -713988000>-10800",
     "-703710000>-14400 -681933600>-10800 -672865200>-14400 -650484000>-10800 -641415600>-14400",
     "-618429600>-10800 -609966000>-14400 -586980000>-10800 -578516400>-14400 -555530400>-10800",
     "-546462000>-14400 -429127200>-10800 -415825200>-14400 136360800>-10800 152082000>-14400",
     "167810400>-10800 183531600>-14400 199260000>-10800 215586000>-14400 230709600>-10800",
     "247035600>-14400 262764000>-10800 278485200>-14400 294213600>-10800 309934800>-14400",
     "325663200>-10800 341384400>-14400 357112800>-10800 372834000>-14400 388562400>-10800",
     "404888400>-14400 420012000>-10800 436338000>-14400 452066400>-10800 467787600>-14400",
     "483516000>-10800 499237200>-14400 514965600>-10800 530686800>-14400 544600800>-10800",
     "562136400>-14400 576050400>-10800 594190800>-14400 607500000>-10800 625640400>-14400",
     "638949600>-10800 657090000>-14400 671004000>-10800 688539600>-14400 702453600>-10800",
     "719989200>-14400 733903200>-10800 752043600>-14400 765352800>-10800 783493200>-14400",
     "796802400>-10800 814942800>-14400 828856800>-10800 846392400>-14400 860306400>-10800",
     "877842000>-14400 891756000>-10800 909291600>-14400 923205600>-10800 941346000>-14400",
     "954655200>-10800 972795600>-14400 986104800>-10800 1004245200>-14400 1018159200>-10800",
     "1035694800>-14400 1049608800>-10800 1067144400>-14400 1081058400>-10800 1099198800>-14400",
     "1112508000>-10800 1130648400>-14400 1143957600>-10800 1162098000>-14400 | 2007",
     "3/6/8/21600/-10800 11/6/1/18000/-14400"]),
  ("Atlantic/Canary",
    ["-3696 -1509663504>-3600 -733874400>0 323827200>3600 338950800>0 354675600>3600 370400400>0",
     "386125200>3600 401850000>0 417574800>3600 433299600>0 449024400>3600 465354000>0",
     "481078800>3600 496803600>0 512528400>3600 528253200>0 543978000>3600 559702800>0",
     "575427600>3600 591152400>0 606877200>3600 622602000>0 638326800>3600 654656400>0",
     "670381200>3600 686106000>0 701830800>3600 717555600>0 733280400>3600 749005200>0",
     "764730000>3600 780454800>0 796179600>3600 811904400>0 | 1996 3/6/25/3600/3600",
     "10/6/25/3600/0"]),
  ("Atlantic/Cape_Verde",
    ["-5644 -1830376800>-7200 -862610400>-3600 -764118000>-7200 186120000>-3600"]),
  ("Atlantic/Faroe",
    ["-1624 -1955748776>0 354675600>3600 370400400>0 386125200>3600 401850000>0 417574800>3600",
     "433299600>0 449024400>3600 465354000>0 481078800>3600 496803600>0 512528400>3600",
     "528253200>0 543978000>3600 559702800>0 575427600>3600 591152400>0 606877200>3600",
     "622602000>0 638326800>3600 654656400>0 670381200>3600 686106000>0 701830800>3600",
     "717555600>0 733280400>3600 749005200>0 764730000>3600 780454800>0 796179600>3600",
     "811904400>0 | 1996 3/6/25/3600/3600 10/6/25/3600/0"]),
  ("Atlantic/Madeira",
    ["-4056 -1830380400>-3600 -1689552000>0 -1677798000>-3600 -1667430000>0 -1647734400>-3600",
     "-1635894000>0 -1616198400>-3600 -1604358000>0 -1584662400>-3600 -1572735600>0",
     "-1553040000>-3600 -1541199600>0 -1521504000>-3600 -1442448000>0 -1427673600>-3600",
     "-1379289600>0 -1364774400>-3600 -1348444800>0 -1333324800>-3600 -1316390400>0",
     "-1301270400>-3600 -1284336000>0 -1269820800>-3600 -1221436800>0 -1206921600>-3600",
     "-1191196800>0 -1175472000>-3600 -1127692800>0 -1111968000>-3600 -1096848000>0",
     "-1080518400>-3600 -1063584000>0 -1049068800>-3600 -1033344000>0 -1017619200>-3600",
     "-1002499200>0 -986169600>-3600 -969235200>0 -950486400>-3600 -942019200>0 -922492800>-3600",
     "-906940800>0 -891129600>-3600 -877305600>0 -873680400>3600 -864003600>0 -857952000>-3600",
     "-845856000>0 -842835600>3600 -831344400>0 -825897600>-3600 -814406400>0 -810781200>3600",
     "-799894800>0 -794448000>-3600 -782956800>0 -779331600>3600 -768445200>0 -762998400>-3600",
     "-749088000>0 -733363200>-3600 -717627600>0 -701902800>-3600 -686178000>0 -670453200>-3600",
     "-654728400>0 -639003600>-3600 -623278800>0 -607554000>-3600 -591829200>0 -575499600>-3600",
     "-559774800>0 -544050000>-3600 -528325200>0 -512600400>-3600 -496875600>0 -481150800>-3600",
     "-465426000>0 -449701200>-3600 -433976400>0 -417646800>-3600 -401922000>0 -386197200>-3600",
     "-370472400>0 -354747600>-3600 -339022800>0 -323298000>-3600 -307573200>0 -291848400>-3600",
     "-276123600>0 -260398800>-3600 -244674000>0 -228344400>-3600 -212619600>0 -196894800>-3600",
     "-181170000>0 -165445200>-3600 -149720400>0 -133995600>-3600 -118270800>0 386726400>3600",
     "401846400>0 417571200>3600 433296000>0 449020800>3600 465350400>0 481075200>3600",
     "496800000>0 512524800>3600 528253200>0 543978000>3600 559702800>0 575427600>3600",
     "591152400>0 606877200>3600 622602000>0 638326800>3600 654656400>0 670381200>3600",
     "686106000>0 701830800>3600 717555600>0 733280400>3600 749005200>0 764730000>3600",
     "780454800>0 796179600>3600 811904400>0 | 1996 3/6/25/3600/3600 10/6/25/3600/0"]),
  ("Atlantic/South_Georgia",
    ["-8768 -2524512832>-7200"]),
  ("Atlantic/Stanley",
    ["-13884 -1824235716>-14400 -1018209600>-10800 -1003093200>-14400 -986760000>-10800",
     "-971643600>-14400 -954705600>-10800 -939589200>-14400 -923256000>-10800 -908139600>-14400",
     "-891806400>-10800 -876690000>-14400 -860356800>-10800 -852066000>-14400 420609600>-10800",
     "433306800>-7200 452052000>-10800 464151600>-7200 483501600>-10800 514350000>-14400",
     "527054400>-10800 545799600>-14400 558504000>-10800 577249200>-14400 589953600>-10800",
     "608698800>-14400 621403200>-10800 640753200>-14400 652852800>-10800 672202800>-14400",
     "684907200>-10800 703652400>-14400 716356800>-10800 735102000>-14400 747806400>-10800",
     "766551600>-14400 779256000>-10800 798001200>-14400 810705600>-10800 830055600>-14400",
     "842760000>-10800 861505200>-14400 874209600>-10800 892954800>-14400 905659200>-10800",
     "924404400>-14400 937108800>-10800 955854000>-14400 968558400>-10800 987310800>-14400",
     "999410400>-10800 1019365200>-14400 1030860000>-10800 1050814800>-14400 1062914400>-10800",
     "1082264400>-14400 1094364000>-10800 1113714000>-14400 1125813600>-10800 1145163600>-14400",
     "1157263200>-10800 1176613200>-14400 1188712800>-10800 1208667600>-14400 1220767200>-10800",
     "1240117200>-14400 1252216800>-10800 1271566800>-14400 1283666400>-10800"]),
  ("Australia/Adelaide",
    ["33260 -2364110060>32400 -2230189200>34200 -1672558200>37800 -1665387000>34200",
     "-883639800>37800 -876123000>34200 -860398200>37800 -844673400>34200 -828343800>37800",
     "-813223800>34200 57688200>37800 67969800>34200 89137800>37800 100024200>34200",
     "120587400>37800 131473800>34200 152037000>37800 162923400>34200 183486600>37800",
     "194977800>34200 215541000>37800 226427400>34200 246990600>37800 257877000>34200",
     "278440200>37800 289326600>34200 309889800>37800 320776200>34200 341339400>37800",
     "352225800>34200 372789000>37800 384280200>34200 404843400>37800 415729800>34200",
     "436293000>37800 447179400>34200 467742600>37800 478629000>34200 499192200>37800",
     "511288200>34200 530037000>37800 542737800>34200 562091400>37800 574792200>34200",
     "594145800>37800 606241800>34200 625595400>37800 637691400>34200 657045000>37800",
     "667931400>34200 688494600>37800 701195400>34200 719944200>37800 731435400>34200",
     "751998600>37800 764094600>34200 783448200>37800 796149000>34200 814897800>37800",
     "828203400>34200 846347400>37800 859653000>34200 877797000>37800 891102600>34200",
     "909246600>37800 922552200>34200 941301000>37800 954001800>34200 972750600>37800",
     "985451400>34200 1004200200>37800 1017505800>34200 1035649800>37800 1048955400>34200",
     "1067099400>37800 1080405000>34200 1099153800>37800 1111854600>34200 1130603400>37800",
     "1143909000>34200 1162053000>37800 1174753800>34200 1193502600>37800 | 2008",
     "4/6/1/-27000/34200 10/6/1/-27000/37800"]),
  ("Australia/Brisbane",
    ["36728 -2366791928>36000 -1672560000>39600 -1665388800>36000 -883641600>39600",
     "-876124800>36000 -860400000>39600 -844675200>36000 -828345600>39600 -813225600>36000",
     "57686400>39600 67968000>36000 625593600>39600 636480000>36000 657043200>39600",
     "667929600>36000 688492800>39600 699379200>36000"]),
  ("Australia/Broken_Hill",
    ["33948 -2364110748>36000 -2314951200>32400 -2230189200>34200 -1672558200>37800",
     "-1665387000>34200 -883639800>37800 -876123000>34200 -860398200>37800 -844673400>34200",
     "-828343800>37800 -813223800>34200 57688200>37800 67969800>34200 89137800>37800",
     "100024200>34200 120587400>37800 131473800>34200 152037000>37800 162923400>34200",
     "183486600>37800 194977800>34200 215541000>37800 226427400>34200 246990600>37800",
     "257877000>34200 278440200>37800 289326600>34200 309889800>37800 320776200>34200",
     "341339400>37800 352225800>34200 372789000>37800 386699400>34200 404843400>37800",
     "415729800>34200 436293000>37800 447179400>34200 467742600>37800 478629000>34200",
     "499192200>37800 511288200>34200 530037000>37800 542737800>34200 562091400>37800",
     "574792200>34200 594145800>37800 606241800>34200 625595400>37800 636481800>34200",
     "657045000>37800 667931400>34200 688494600>37800 699381000>34200 719944200>37800",
     "731435400>34200 751998600>37800 762885000>34200 783448200>37800 794334600>34200",
     "814897800>37800 828203400>34200 846347400>37800 859653000>34200 877797000>37800",
     "891102600>34200 909246600>37800 922552200>34200 941301000>37800 954001800>34200",
     "972750600>37800 985451400>34200 1004200200>37800 1017505800>34200 1035649800>37800",
     "1048955400>34200 1067099400>37800 1080405000>34200 1099153800>37800 1111854600>34200",
     "1130603400>37800 1143909000>34200 1162053000>37800 1174753800>34200 1193502600>37800 |",
     "2008 4/6/1/-27000/34200 10/6/1/-27000/37800"]),
  ("Australia/Darwin",
    ["31400 -2364108200>32400 -2230189200>34200 -1672558200>37800 -1665387000>34200",
     "-883639800>37800 -876123000>34200 -860398200>37800 -844673400>34200 -828343800>37800",
     "-813223800>34200"]),
  ("Australia/Eucla",
    ["30928 -2337928528>31500 -1672555500>35100 -1665384300>31500 -883637100>35100",
     "-876120300>31500 -860395500>35100 -844670700>31500 152039700>35100 162926100>31500",
     "436295700>35100 447182100>31500 690311700>35100 699383700>31500 1165079700>35100",
     "1174756500>31500 1193505300>35100 1206810900>31500 1224954900>35100 1238260500>31500"]),
  ("Australia/Hobart",
    ["35356 -2345795356>36000 -1680508800>39600 -1665388800>36000 -1646640000>39600",
     "-1635753600>36000 -1615190400>39600 -1604304000>36000 -883641600>39600 -876124800>36000",
     "-860400000>39600 -844675200>36000 -828345600>39600 -813225600>36000 -71136000>39600",
     "-55411200>36000 -37267200>39600 -25776000>36000 -5817600>39600 5673600>36000",
     "25632000>39600 37728000>36000 57686400>39600 67968000>36000 89136000>39600 100022400>36000",
     "120585600>39600 131472000>36000 152035200>39600 162921600>36000 183484800>39600",
     "194976000>36000 215539200>39600 226425600>36000 246988800>39600 257875200>36000",
     "278438400>39600 289324800>36000 309888000>39600 320774400>36000 341337600>39600",
     "352224000>36000 372787200>39600 386092800>36000 404841600>39600 417542400>36000",
     "436291200>39600 447177600>36000 467740800>39600 478627200>36000 499190400>39600",
     "510076800>36000 530035200>39600 542736000>36000 562089600>39600 574790400>36000",
     "594144000>39600 606240000>36000 625593600>39600 637689600>36000 657043200>39600",
     "670348800>36000 686678400>39600 701798400>36000 718128000>39600 733248000>36000",
     "749577600>39600 764697600>36000 781027200>39600 796147200>36000 812476800>39600",
     "828201600>36000 844531200>39600 859651200>36000 875980800>39600 891100800>36000",
     "907430400>39600 922550400>36000 938880000>39600 954000000>36000 967305600>39600",
     "985449600>36000 1002384000>39600 1017504000>36000 1033833600>39600 1048953600>36000",
     "1065283200>39600 1080403200>36000 1096732800>39600 1111852800>36000 1128182400>39600",
     "1143907200>36000 1159632000>39600 1174752000>36000 1191686400>39600 | 2008",
     "4/6/1/-28800/36000 10/6/1/-28800/39600"]),
  ("Australia/Lindeman",
    ["35756 -2366790956>36000 -1672560000>39600 -1665388800>36000 -883641600>39600",
     "-876124800>36000 -860400000>39600 -844675200>36000 -828345600>39600 -813225600>36000",
     "57686400>39600 67968000>36000 625593600>39600 636480000>36000 657043200>39600",
     "667929600>36000 688492800>39600 699379200>36000 719942400>39600 731433600>36000",
     "751996800>39600 762883200>36000"]),
  ("Australia/Lord_Howe",
    ["38180 -2364114980>36000 352216800>37800 372785400>41400 384273000>37800 404839800>41400",
     "415722600>37800 436289400>41400 447172200>37800 467739000>41400 478621800>37800",
     "499188600>39600 511282800>37800 530033400>39600 542732400>37800 562087800>39600",
     "574786800>37800 594142200>39600 606236400>37800 625591800>39600 636476400>37800",
     "657041400>39600 667926000>37800 688491000>39600 699375600>37800 719940600>39600",
     "731430000>37800 751995000>39600 762879600>37800 783444600>39600 794329200>37800",
     "814894200>39600 828198000>37800 846343800>39600 859647600>37800 877793400>39600",
     "891097200>37800 909243000>39600 922546800>37800 941297400>39600 953996400>37800",
     "967303800>39600 985446000>37800 1004196600>39600 1017500400>37800 1035646200>39600",
     "1048950000>37800 1067095800>39600 1080399600>37800 1099150200>39600 1111849200>37800",
     "1130599800>39600 1143903600>37800 1162049400>39600 1174748400>37800 1193499000>39600 |",
     "2008 4/6/1/-32400/37800 10/6/1/-30600/39600"]),
  ("Australia/Melbourne",
    ["34792 -2364111592>36000 -1672560000>39600 -1665388800>36000 -883641600>39600",
     "-876124800>36000 -860400000>39600 -844675200>36000 -828345600>39600 -813225600>36000",
     "57686400>39600 67968000>36000 89136000>39600 100022400>36000 120585600>39600",
     "131472000>36000 152035200>39600 162921600>36000 183484800>39600 194976000>36000",
     "215539200>39600 226425600>36000 246988800>39600 257875200>36000 278438400>39600",
     "289324800>36000 309888000>39600 320774400>36000 341337600>39600 352224000>36000",
     "372787200>39600 384278400>36000 404841600>39600 415728000>36000 436291200>39600",
     "447177600>36000 467740800>39600 478627200>36000 499190400>39600 511286400>36000",
     "530035200>39600 542736000>36000 561484800>39600 574790400>36000 594144000>39600",
     "606240000>36000 625593600>39600 637689600>36000 657043200>39600 667929600>36000",
     "688492800>39600 699379200>36000 719942400>39600 731433600>36000 751996800>39600",
     "762883200>36000 783446400>39600 796147200>36000 814896000>39600 828201600>36000",
     "846345600>39600 859651200>36000 877795200>39600 891100800>36000 909244800>39600",
     "922550400>36000 941299200>39600 954000000>36000 967305600>39600 985449600>36000",
     "1004198400>39600 1017504000>36000 1035648000>39600 1048953600>36000 1067097600>39600",
     "1080403200>36000 1099152000>39600 1111852800>36000 1130601600>39600 1143907200>36000",
     "1162051200>39600 1174752000>36000 1193500800>39600 | 2008 4/6/1/-28800/36000",
     "10/6/1/-28800/39600"]),
  ("Australia/Perth",
    ["27804 -2337925404>28800 -1672552800>32400 -1665381600>28800 -883634400>32400",
     "-876117600>28800 -860392800>32400 -844668000>28800 152042400>32400 162928800>28800",
     "436298400>32400 447184800>28800 690314400>32400 699386400>28800 1165082400>32400",
     "1174759200>28800 1193508000>32400 1206813600>28800 1224957600>32400 1238263200>28800"]),
  ("Australia/Sydney",
    ["36292 -2364113092>36000 -1672560000>39600 -1665388800>36000 -883641600>39600",
     "-876124800>36000 -860400000>39600 -844675200>36000 -828345600>39600 -813225600>36000",
     "57686400>39600 67968000>36000 89136000>39600 100022400>36000 120585600>39600",
     "131472000>36000 152035200>39600 162921600>36000 183484800>39600 194976000>36000",
     "215539200>39600 226425600>36000 246988800>39600 257875200>36000 278438400>39600",
     "289324800>36000 309888000>39600 320774400>36000 341337600>39600 352224000>36000",
     "372787200>39600 386697600>36000 404841600>39600 415728000>36000 436291200>39600",
     "447177600>36000 467740800>39600 478627200>36000 499190400>39600 511286400>36000",
     "530035200>39600 542736000>36000 562089600>39600 574790400>36000 594144000>39600",
     "606240000>36000 625593600>39600 636480000>36000 657043200>39600 667929600>36000",
     "688492800>39600 699379200>36000 719942400>39600 731433600>36000 751996800>39600",
     "762883200>36000 783446400>39600 794332800>36000 814896000>39600 828201600>36000",
     "846345600>39600 859651200>36000 877795200>39600 891100800>36000 909244800>39600",
     "922550400>36000 941299200>39600 954000000>36000 967305600>39600 985449600>36000",
     "1004198400>39600 1017504000>36000 1035648000>39600 1048953600>36000 1067097600>39600",
     "1080403200>36000 1099152000>39600 1111852800>36000 1130601600>39600 1143907200>36000",
     "1162051200>39600 1174752000>36000 1193500800>39600 | 2008 4/6/1/-28800/36000",
     "10/6/1/-28800/39600"]),
  ("Indian/Chagos",
    ["17380 -1988167780>18000 820436400>21600"]),
  ("Indian/Maldives",
    ["17640 -315636840>18000"]),
  ("Indian/Mauritius",
    ["13800 -1988164200>14400 403041600>18000 417034800>14400 1224972000>18000 1238274000>14400"])]

end FlowScheduler.Zone.Table
